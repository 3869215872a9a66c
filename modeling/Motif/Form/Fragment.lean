import Motif.Fragment
import Motif.Json.Decode

/-!
The JSON forms of fragments and of their parts.
-/

namespace Motif

open Document

namespace Features

def toJson (f : Features) : Json :=
  .obj [("has_declarations", .bool f.hasDeclarations), ("has_async", .bool f.hasAsync),
    ("has_chaining", .bool f.hasChaining), ("has_conditionals", .bool f.hasConditionals),
    ("has_loops", .bool f.hasLoops), ("line_count", .nat f.lineCount),
    ("non_blank_lines", .nat f.nonBlankLines), ("category", .str f.category)]

def fields : Fields Json Features :=
  Fields.pure Features.mk
    |>.also (.required "has_declarations" Json.bool?)
    |>.also (.required "has_async" Json.bool?)
    |>.also (.required "has_chaining" Json.bool?)
    |>.also (.required "has_conditionals" Json.bool?)
    |>.also (.required "has_loops" Json.bool?)
    |>.also (.required "line_count" word)
    |>.also (.required "non_blank_lines" word)
    |>.also (.required "category" text)

def ofJson : Decoder Json Features := fields.read

end Features

namespace Fragment

def toJson (f : Fragment) : Json :=
  .obj [("id", Json.ofUuid f.id), ("code", .str f.code),
    ("structural_summary", f.features.toJson), ("context", Json.ofDictionary f.context),
    ("confidence", .float f.confidence), ("timestamp", Json.ofTime f.time)]

def fields : Fields Json Fragment :=
  Fields.pure Fragment.mk
    |>.also (.required "id" Json.uuid?)
    |>.also (.required "code" text)
    |>.also (.required "structural_summary" Features.ofJson)
    |>.also (.required "context" dictionary)
    |>.also (.required "confidence" real)
    |>.also (.required "timestamp" Json.time?)

def ofJson : Decoder Json Fragment := fields.read

end Fragment
end Motif
