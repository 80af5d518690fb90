import Folio.Json.Reader

/-!
# Shapes of JSON values

A shape says what a reader expects. Records are known by names of a type `ρ`, and a `Schema` gives
the fields of each, so that shapes may be recursive. A record is written as an object or, with its
fields in order, as a list; unknown fields are ignored.

Reading by a shape gives a value in *normal form*: a record is the list of its field values, with
defaults filled in, and a value of a tagged union is an object of the tag and the record.

Two readings follow a shape: `readShape` reads from the text and finds a fault at the first place
where the text cannot go on as the shape wants; `fit` looks at a value that has been read before.
The union's records are read the second way, because their tag may come last.
-/

namespace Folio.Json

/-- The whole numbers of a certain size. -/
inductive Width where
  | byte
  | word
  | size
  deriving DecidableEq, Repr

/-- The largest number of a size. -/
def Width.max : Width → Nat
  | .byte => 0xFF
  | .word => 0xFFFFFFFF
  | .size => 0xFFFFFFFFFFFFFFFF

/-- The name of a size in a fault. -/
def Width.name : Width → String
  | .byte => "u8"
  | .word => "u32"
  | .size => "usize"

/-- What a reader expects. -/
inductive Shape (ρ : Type) where
  | text
  | flag
  | number (width : Width)
  /-- One of the names. -/
  | choice (names : List String)
  | list (item : Shape ρ)
  | pair (first second : Shape ρ)
  | record (record : ρ)
  /-- A record that says by the value of its field `tag` which of the variants it is. -/
  | tagged (name tag : String) (variants : List (String × ρ))
  deriving Repr

/-- A member of a record: a field with its name and its shape. -/
structure Member (ρ : Type) where
  name : String
  shape : Shape ρ
  /-- The field may be null. -/
  nullable : Bool := false
  /-- The value of a field that an object lacks. -/
  absent : Option Json := none
  /-- A list may lack the field too. -/
  optional : Bool := true
  deriving Repr

/-- The records that a shape refers to. -/
structure Schema (ρ : Type) where
  name : ρ → String
  fields : ρ → List (Member ρ)

/-- A count of things, in words. -/
def counted (n : Nat) (one many : String) : String := n.repr ++ " " ++ if n = 1 then one else many

variable {ρ : Type}

namespace Schema

/-- How a record is called in a fault. -/
def describe (schema : Schema ρ) (r : ρ) : String := "struct " ++ schema.name r

/-- How a record in list form is called in a fault. -/
def describeList (schema : Schema ρ) (r : ρ) : String :=
  schema.describe r ++ " with " ++ counted (schema.fields r).length "element" "elements"

end Schema

/-- How a tagged union is called in a fault. -/
def describeTagged (name : String) : String := "internally tagged enum " ++ name

/-- The field values of a record in order, from the members read. -/
def fillFields (members : List (String × Json)) : List (Member ρ) → Except Reason (List Json)
  | [] => .ok []
  | field :: fields =>
    match members.lookup field.name, field.absent with
    | some value, _ | none, some value => (fillFields members fields).map (value :: ·)
    | none, none => .error (.missingField field.name)

/-- The number fits its size. -/
def checkNumber (width : Width) : Json → Except Reason Json
  | .nat n =>
    if n ≤ width.max then .ok (.nat n) else .error (.invalidValue (.integer n) width.name)
  | .neg n => .error (.invalidValue (.integer (-n)) width.name)
  | other => .error (.invalidType other.found width.name)

/-- The name is one of those known. -/
def checkName (names : List String) (name : String) : Except Reason Json :=
  if names.contains name then .ok (.str name) else .error (.unknownVariant name names)

/-! ## Values read before -/

/-- The fields of a record in list form. -/
def fitItems (fit : Member ρ → Json → Except Reason Json) (describe : String) :
    (index : Nat) → List (Member ρ) → List Json → Except Reason (List Json)
  | _, [], [] => .ok []
  | index, [], rest@(_ :: _) =>
    .error (.invalidLength (index + rest.length)
      (counted index "element in sequence" "elements in sequence"))
  | index, field :: fields, item :: items => do
    let value ← fit field item
    return value :: (← fitItems fit describe (index + 1) fields items)
  | index, field :: fields, [] =>
    match field.absent with
    | some value =>
      if field.optional then do return value :: (← fitItems fit describe (index + 1) fields [])
      else .error (.invalidLength index describe)
    | none => .error (.invalidLength index describe)

/-- The members of an object that are fields, in the order of the object. -/
def fitMembers (fit : Member ρ → Json → Except Reason Json) (fields : List (Member ρ)) :
    (seen : List String) → List (String × Json) → Except Reason (List (String × Json))
  | _, [] => .ok []
  | seen, (name, item) :: rest =>
    match fields.find? (·.name == name) with
    | none => fitMembers fit fields seen rest
    | some field => do
      if seen.contains name then .error (.duplicateField name)
      let value ← fit field item
      return (name, value) :: (← fitMembers fit fields (name :: seen) rest)

/-- The normal form of a value that has the shape; `levels` bounds how deep its lists and objects
nest. -/
def fit (schema : Schema ρ) (levels : Nat) (shape : Shape ρ) (json : Json) : Except Reason Json :=
  match shape with
  | .text =>
    match json with
    | .str value => .ok (.str value)
    | other => .error (.invalidType other.found "a string")
  | .flag =>
    match json with
    | .bool value => .ok (.bool value)
    | other => .error (.invalidType other.found "a boolean")
  | .number width => checkNumber width json
  | .choice names =>
    match json with
    | .str name => checkName names name
    | .obj [(name, value)] => do
      let name ← checkName names name
      match value with
      | .null => .ok name
      | .obj [] => .ok name
      | other => .error (.invalidType other.found "unit")
    | .obj _ => .error (.invalidValue .map "map with a single key")
    | other => .error (.invalidType other.found "string or map")
  | .list item =>
    match json, levels with
    | .arr items, levels + 1 => do return .arr (← items.mapM (fit schema levels item))
    | .arr _, 0 => .error .recursionLimit
    | other, _ => .error (.invalidType other.found "a sequence")
  | .pair first second =>
    match json, levels with
    | .arr (a :: b :: rest), levels + 1 => do
      let a ← fit schema levels first a
      let b ← fit schema levels second b
      if rest.isEmpty then .ok (.arr [a, b])
      else .error (.invalidLength (2 + rest.length) "2 elements in sequence")
    | .arr items, levels + 1 => do
      let _ ← items.mapM (fit schema levels first)
      .error (.invalidLength items.length "a tuple of size 2")
    | .arr _, 0 => .error .recursionLimit
    | other, _ => .error (.invalidType other.found "a tuple of size 2")
  | .record r =>
    match levels with
    | 0 => .error .recursionLimit
    | levels + 1 => fitRecord (fun shape json => fit schema levels shape json) r json
  | .tagged name tag variants =>
    match json, levels with
    | .obj members, levels + 1 =>
      match members.lookup tag with
      | none => .error (.missingField tag)
      | some (.str variant) =>
        match variants.lookup variant with
        | none => .error (.unknownVariant variant (variants.map (·.1)))
        | some r => do
          let value ← fitRecord (fun shape json => fit schema levels shape json) r
            (.obj (members.filter (·.1 != tag)))
          return .obj [(variant, value)]
      | some other => .error (.invalidType other.found "variant identifier")
    | .obj _, 0 => .error .recursionLimit
    | other, _ => .error (.invalidType other.found (describeTagged name))
where
  /-- The normal form of a record, whose field values are fitted by `fitValue`. -/
  fitRecord (fitValue : Shape ρ → Json → Except Reason Json) (r : ρ) (json : Json) :
      Except Reason Json :=
    let fitField (field : Member ρ) (value : Json) : Except Reason Json :=
      match field.nullable, value with
      | true, .null => .ok .null
      | _, value => fitValue field.shape value
    match json with
    | .arr items => do
      return .arr (← fitItems fitField (schema.describeList r) 0 (schema.fields r) items)
    | .obj members => do
      let members ← fitMembers fitField (schema.fields r) [] members
      return .arr (← fillFields members (schema.fields r))
    | other => .error (.invalidType other.found (schema.describe r))

/-! ## Values read from the text -/

namespace Reader

/-- A fault of what was found, without a position of its own. -/
def failFound {α : Type} (reason : Reason) : Reader α := throw ⟨reason, none⟩

/-- The outcome of a check of what was found. -/
def check {α : Type} : Except Reason α → Reader α
  | .ok value => return value
  | .error reason => failFound reason

/-- The fault of a token that begins no value of the kind expected. -/
def wrongType {α : Type} (expected : String) : Reader α := do
  match ← peek with
  | some '[' => failFound (.invalidType .sequence expected)
  | some '\x7b' => failFound (.invalidType .map expected)
  | _ =>
    let other ← value 0
    failFound (.invalidType other.found expected)

/-- The string at the place reached. -/
def text (expected : String) : Reader String := located do
  match ← peekToken with
  | none => failNext .endInValue
  | some '"' => skip; stringBody
  | some _ => wrongType expected

/-- One of the names at the place reached. -/
def name (names : List String) : Reader Json := located do
  match ← peekToken with
  | none => failNext .endInValue
  | some '"' => skip; check (checkName names (← stringBody))
  | some _ => wrongType "variant identifier"

/-- Passes a null. -/
def unit : Reader Unit := located do
  match ← peekToken with
  | none => failNext .endInValue
  | some 'n' => skip; word ['u', 'l', 'l']
  | some _ => wrongType "unit"

/-- A choice among names: a string, or an object with the name as its key and null as its value. -/
def choice (nested : Bool) (names : List String) : Reader Json := do
  match ← peekToken with
  | none => failNext .endInValue
  | some '"' => name names
  | some '\x7b' =>
    if !nested then failNext .recursionLimit
    else
      skip
      let chosen ← name names
      colon
      unit
      match ← peekToken with
      | some '\x7d' => skip; return chosen
      | some _ => failHere .expectedValue
      | none => failHere .endInObject
  | some _ => failNext .expectedValue

/-- The fields of a record in list form. -/
def fieldItems (readField : Member ρ → Reader Json) (describe : String) :
    (index : Nat) → (first : Bool) → List (Member ρ) → Reader (List Json)
  | _, _, [] => return []
  | index, first, field :: fields => do
    if ← moreItems first then
      let value ← readField field
      return value :: (← fieldItems readField describe (index + 1) false fields)
    else
      match field.absent with
      | some value =>
        if field.optional then
          return value :: (← fieldItems readField describe (index + 1) first fields)
        else failFound (.invalidLength index describe)
      | none => failFound (.invalidLength index describe)

/-- The members of an object that are fields, in the order of the object. -/
def fieldMembers (readField : Member ρ → Reader Json) (fields : List (Member ρ)) :
    (fuel : Nat) → (first : Bool) → (seen : List String) → Reader (List (String × Json))
  | 0, _, _ => return []
  | fuel + 1, first, seen => do
    if ← moreKeys first then
      let k ← key
      match fields.find? (·.name == k) with
      | none =>
        colon
        skipValue
        fieldMembers readField fields fuel false seen
      | some field =>
        if seen.contains k then failFound (.duplicateField k)
        colon
        let value ← readField field
        return (k, value) :: (← fieldMembers readField fields fuel false (k :: seen))
    else return []

/-- The tag of a union and the other members of the object that carries it. -/
def taggedMembers (levels : Nat) (tag : String) (variants : List String) :
    (fuel : Nat) → (first : Bool) → (found : Option Json) → Reader (Json × List (String × Json))
  | 0, _, _ => failFound (.missingField tag)
  | fuel + 1, first, found => do
    if ← moreKeys first then
      let k ← key
      if k = tag then
        if found.isSome then failFound (.duplicateField tag)
        colon
        let variant ← name variants
        taggedMembers levels tag variants fuel false (some variant)
      else
        colon
        let member ← value levels
        let (variant, members) ← taggedMembers levels tag variants fuel false found
        return (variant, (k, member) :: members)
    else
      match found with
      | some variant => return (variant, [])
      | none => failFound (.missingField tag)

/-- The tag of a union and its contents: an object with the tag among its members, or a list with
the tag in front. -/
def tagged (levels : Nat) (unionName tag : String) (variants : List String) :
    Reader (Json × Json) :=
  located do
    match ← peekToken, levels with
    | none, _ => failNext .endInValue
    | some '[', 0 | some '\x7b', 0 => failNext .recursionLimit
    | some '[', levels + 1 =>
      skip
      thenEnd (do
        if ← moreItems true then
          let variant ← name variants
          let items ← itemsWith (value levels) ((← remaining) + 1) false
          return (variant, .arr items)
        else failFound (.missingField tag)) endList
    | some '\x7b', levels + 1 =>
      skip
      thenEnd (do
        let (variant, members) ← taggedMembers levels tag variants ((← remaining) + 1) true none
        return (variant, .obj members)) endObject
    | some _, _ =>
      let other ← value 0
      failFound (.invalidType other.found (describeTagged unionName))

/-- The normal form of the value at the place reached, which has to have the shape. -/
def readShape (schema : Schema ρ) (levels : Nat) (shape : Shape ρ) : Reader Json :=
  match shape with
  | .text => do return .str (← text "a string")
  | .flag => located do
    match ← peekToken with
    | none => failNext .endInValue
    | some 't' => skip; word ['r', 'u', 'e']; return .bool true
    | some 'f' => skip; word ['a', 'l', 's', 'e']; return .bool false
    | some _ => wrongType "a boolean"
  | .number width => located do
    match ← peekToken with
    | none => failNext .endInValue
    | some '-' => skip; check (checkNumber width (← number true))
    | some c =>
      if c.isDigit then check (checkNumber width (← number false)) else wrongType width.name
  | .choice names => choice (levels != 0) names
  | .list item => located do
    match ← peekToken with
    | none => failNext .endInValue
    | some '[' =>
      match levels with
      | 0 => failNext .recursionLimit
      | levels + 1 =>
        skip
        thenEnd (do
          return .arr (← itemsWith (readShape schema levels item) ((← remaining) + 1) true)) endList
    | some _ => wrongType "a sequence"
  | .pair first second => located do
    match ← peekToken with
    | none => failNext .endInValue
    | some '[' =>
      match levels with
      | 0 => failNext .recursionLimit
      | levels + 1 =>
        skip
        thenEnd (do
          if ← moreItems true then
            let a ← readShape schema levels first
            if ← moreItems false then
              let b ← readShape schema levels second
              return .arr [a, b]
            else failFound (.invalidLength 1 "a tuple of size 2")
          else failFound (.invalidLength 0 "a tuple of size 2")) endList
    | some _ => wrongType "a tuple of size 2"
  | .record r => located do
    match ← peekToken with
    | none => failNext .endInValue
    | some '[' =>
      match levels with
      | 0 => failNext .recursionLimit
      | levels + 1 =>
        skip
        thenEnd (do
          let readField := fieldWith fun shape => readShape schema levels shape
          let values ← fieldItems readField (schema.describeList r) 0 true (schema.fields r)
          return .arr values) endList
    | some '\x7b' =>
      match levels with
      | 0 => failNext .recursionLimit
      | levels + 1 =>
        skip
        thenEnd (do
          let readField := fieldWith fun shape => readShape schema levels shape
          let members ← fieldMembers readField (schema.fields r) ((← remaining) + 1) true []
          return .arr (← check (fillFields members (schema.fields r)))) endObject
    | some _ => wrongType (schema.describe r)
  | .tagged unionName tag variants => do
    let (variant, contents) ← tagged levels unionName tag (variants.map (·.1))
    match variant with
    | .str variant =>
      match variants.lookup variant with
      | some r => return .obj [(variant, ← check (fit schema levels (.record r) contents))]
      | none => failFound (.unknownVariant variant (variants.map (·.1)))
    | other => failFound (.invalidType other.found "variant identifier")
where
  /-- The value of a field, read by `readValue` unless it is a null that the field allows. -/
  fieldWith (readValue : Shape ρ → Reader Json) (field : Member ρ) : Reader Json := do
    if field.nullable then
      match ← peekToken with
      | some 'n' => skip; word ['u', 'l', 'l']; return .null
      | _ => readValue field.shape
    else readValue field.shape

end Reader

/-- The normal form of the value that a text holds, which has to have the shape and to fill the
text but for blanks. -/
def readText (schema : Schema ρ) (shape : Shape ρ) (source : String) : Except Fault Json :=
  let reader : Reader Json := do
    let value ← Reader.readShape schema maxNesting shape
    match ← Reader.peekToken with
    | none => return value
    | some _ => Reader.failNext .trailingCharacters
  (reader { rest := source.toList }).1

end Folio.Json
