import Folio.Text.Lines
import Folio.Unicode.Alphanumeric
import Folio.Unicode.Lowercase

/-!
# Slugs

The slug of a title is its alphanumeric words in lower case, joined by hyphens. A `SlugRegistry`
gives each title of a document a slug of its own: the first title with a slug gets it bare, later
ones get the number of their repetition as a suffix, and where a suffixed slug is already taken it
is treated as a title itself.
-/

namespace Folio.Text
open Unicode (isAlphanumeric lowercase)

/-- The alphanumeric words of a text, in lower case and joined by hyphens. -/
def slugChars (cs : List Char) : List Char :=
  join ['-'] ((fields (!isAlphanumeric ·) cs).map lowercase)

/-- The slug of a title; empty when the title has no alphanumeric character. -/
def slugify (title : String) : String := String.ofList (slugChars title.toList)

/-- The slugs handed out so far, each with the number of titles that asked for it. -/
structure SlugRegistry where
  counts : List (String × Nat) := []
  deriving Repr

namespace SlugRegistry

/-- The slug has been handed out. -/
def contains (registry : SlugRegistry) (slug : String) : Bool :=
  registry.counts.any (·.1 == slug)

/-- How many titles asked for the slug. -/
def count (registry : SlugRegistry) (slug : String) : Nat :=
  (registry.counts.lookup slug).getD 0

/-- Records one more title that asks for the slug. -/
def tally (registry : SlugRegistry) (slug : String) : SlugRegistry where
  counts :=
    if registry.contains slug then
      registry.counts.map fun (s, n) => if s == slug then (s, n + 1) else (s, n)
    else registry.counts ++ [(slug, 1)]

/-- The slug a title asks for: titles without words ask for `section`. -/
def wanted (title : String) : String :=
  let slug := slugify title
  if slug.isEmpty then "section" else slug

/-- A slug not handed out before, and the registry that knows of it. A suffixed slug that is taken
is asked for in turn; each is longer than the last and all are known, so the registry's size
bounds the number of turns. -/
def uniqueWithin (registry : SlugRegistry) : Nat → String → String × SlugRegistry
  | fuel, title =>
    let slug := wanted title
    let registry := registry.tally slug
    let n := registry.count slug
    if n = 1 then (slug, registry)
    else
      let candidate := slug ++ "-" ++ (n - 1).repr
      match fuel with
      | 0 => (candidate, registry.tally candidate)
      | fuel + 1 =>
        if registry.contains candidate then uniqueWithin registry fuel candidate
        else (candidate, registry.tally candidate)

/-- A slug for the title that no title before it was given. -/
def unique (registry : SlugRegistry) (title : String) : String × SlugRegistry :=
  registry.uniqueWithin (registry.counts.length + 2) title

/-- The slugs of a list of titles, in order. -/
def uniqueAll : SlugRegistry → List String → List String
  | _, [] => []
  | registry, title :: titles =>
    let (slug, registry) := registry.unique title
    slug :: registry.uniqueAll titles

end SlugRegistry
end Folio.Text
