import Folio.Files.Tree
import Folio.Main
import Folio.Proofs.Document.Text
import Folio.Proofs.Markdown.CodeFence
import Folio.Proofs.Markdown.ErrorPolicy
import Folio.Proofs.Math.Constructs
import Folio.Proofs.Document.TableGrid
import Folio.Proofs.Markdown.Escaping
import Folio.Proofs.Markdown.LineStarts
import Folio.Proofs.Markdown.RunMarkers
import Folio.Proofs.Document.RefusedEdits
import Folio.Proofs.Markdown.RunCuts
import Folio.Proofs.Math.MarkupText
import Folio.Proofs.Math.KeptCharacters
import Folio.Proofs.Markdown.Leaves
import Folio.Proofs.Markdown.MetadataBlock
import Folio.Proofs.Markdown.Unmapped
import Folio.Proofs.Batch.InOrder
import Folio.Proofs.Markdown.NoteReferences
import Folio.Proofs.Markdown.NoteNumbers
import Folio.Proofs.Document.Cells
import Folio.Proofs.Markdown.Drafts
import Folio.Proofs.Text.Slugs
import Folio.Proofs.Markdown.Filled
import Folio.Proofs.Markdown.Bookmarks
import Folio.Proofs.Markdown.Integrity
import Folio.Proofs.Markdown.BlankLines
import Folio.Proofs.Markdown.LeadingRule
import Folio.Proofs.Files.ImageLinks
import Folio.Proofs.Files.ExtractedContents
import Folio.Batch.Workers
import Folio.Proofs.Batch.Interleavings
import Folio.Math.InPlace
import Folio.Proofs.Math.Shape
import Folio.Proofs.Math.InPlace
import Folio.Proofs.Math.MarkupTags
import Folio.Proofs.Math.MarkupReader
import Folio.Proofs.Math.MarkupDocument
import Folio.Proofs.Document.History
import Folio.Proofs.Markdown.SplitRuns
import Folio.Proofs.Markdown.CodeBlocks
import Folio.Proofs.Document.MergedColumns
import Folio.Proofs.Markdown.TableCells
import Folio.Proofs.Markdown.NoteDefinitions
import Folio.Proofs.Markdown.ListNumbers
import Folio.Proofs.Text.WrappedLines
import Folio.Proofs.Markdown.RenderedTables
import Folio.Proofs.Markdown.ListNesting
import Folio.Proofs.Markdown.WrappedCode
import Folio.Proofs.Math.Lexemes
import Folio.Proofs.Markdown.CodeSpans
import Folio.Proofs.Markdown.HeadingLines
import Folio.Proofs.Markdown.ImageReadings
import Folio.Proofs.Document.CellWidths
import Folio.Proofs.Markdown.SilentNodes
import Folio.Proofs.Markdown.SimpleRows
import Folio.Proofs.Text.SlugWords
import Folio.Proofs.Batch.Outputs
