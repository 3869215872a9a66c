import Motif.Catalog
import Motif.Json.Decode
import Motif.Watchlist

/-!
The JSON forms of patterns and candidates.
-/

namespace Motif

open Document

namespace Pattern

def toJson (p : Pattern) : Json :=
  .obj [("name", .str p.name), ("indicators", .strings p.indicators.words),
    ("base_confidence", .float p.baseConfidence), ("description", .str p.description)]

def fields : Fields Json Pattern :=
  Fields.pure Pattern.mk
    |>.also (.required "name" text)
    |>.also (.required "indicators" Json.wordSet?)
    |>.also (.required "base_confidence" real)
    |>.also (.required "description" text)

def ofJson : Decoder Json Pattern := fields.read

end Pattern

namespace Candidate

def toJson (c : Candidate) : Json :=
  .obj [("name", .str c.name), ("description", .str c.description),
    ("confidence", .float c.confidence), ("occurrences", .nat c.occurrences),
    ("first_seen", Json.ofTime c.firstSeen), ("last_seen", Json.ofTime c.lastSeen),
    ("fragment_ids", Json.ofList Json.ofUuid c.fragments)]

def fields : Fields Json Candidate :=
  Fields.pure Candidate.mk
    |>.also (.required "name" text)
    |>.also (.required "description" text)
    |>.also (.required "confidence" real)
    |>.also (.required "occurrences" word)
    |>.also (.required "first_seen" Json.time?)
    |>.also (.required "last_seen" Json.time?)
    |>.also (.required "fragment_ids" (Json.list? Json.uuid?))

def ofJson : Decoder Json Candidate := fields.read

end Candidate

def Catalog.Reinforcement.toJson (r : Catalog.Reinforcement) : Json :=
  .obj [("pattern", .str r.pattern), ("old_confidence", .float r.before),
    ("new_confidence", .float r.after)]

end Motif
