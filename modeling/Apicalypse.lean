import Apicalypse.Main
import Apicalypse.Proofs.Filter.Clause
import Apicalypse.Proofs.Filter.Tree
import Apicalypse.Proofs.FilterDocument.Conversion
import Apicalypse.Proofs.FilterDocument.FirstFault
import Apicalypse.Proofs.FilterDocument.MemberOrder
import Apicalypse.Proofs.FilterDocument.RoundTrip
import Apicalypse.Proofs.Query.Decoding
import Apicalypse.Proofs.Query.Run
import Apicalypse.Query.Branches
import Apicalypse.Query.Description
import Apicalypse.Proofs.Query.Interleaving
import Apicalypse.Proofs.Query.Lineage
import Apicalypse.Proofs.CommandLine.Word
import Apicalypse.Proofs.CommandLine.Parsing
import Apicalypse.Proofs.Rendering
import Apicalypse.Proofs.Settings
import Apicalypse.Proofs.Sorting
import Apicalypse.Proofs.FilterDocument.Ordering
import Apicalypse.Proofs.Program
import Apicalypse.Proofs.Query.Record
import Apicalypse.Proofs.Query.Batch
import Apicalypse.Filter.Comparison
import Apicalypse.Proofs.Filter.Constructors
import Apicalypse.Proofs.FieldPath
import Apicalypse.Proofs.FieldTable
import Apicalypse.Proofs.Text.Quoted
import Apicalypse.Proofs.Description
import Apicalypse.Proofs.Query.Description
import Apicalypse.Proofs.Query.Provenance
import Apicalypse.Proofs.Comparand
import Apicalypse.Proofs.Naming
import Apicalypse.Proofs.Json.Skipping
import Apicalypse.Proofs.Settings.Json
import Apicalypse.Proofs.FloatingPoint.Rounding
import Apicalypse.Proofs.Json.Number
import Apicalypse.Proofs.FloatingPoint.Layout
import Apicalypse.Proofs.FilterDocument.Numbers
