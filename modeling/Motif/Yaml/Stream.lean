import Motif.Yaml.Char

/-!
A YAML text as it is taken in: in stretches of as many whole characters as fit into 16384 bytes.  A
stretch with a character that may not stand in a stream is refused as a whole.  The text before it
can still be read, by whoever does not look further ahead.
-/

namespace Motif
namespace Yaml

structure Stream where
  text : List Char
  /-- Whether a stretch behind the text was refused. -/
  isCut : Bool

namespace Stream

/-- The bytes of a stretch. -/
def stretchSize : Nat := 16384

/-- The number of characters before the first stretch that is refused.  The walk knows how many
come before the current stretch and how many before the current character, and how many bytes are
left of the stretch. -/
def cutFrom (first index room : Nat) : List Char → Option Nat
  | [] => none
  | c :: rest =>
    let fits := c.utf8Size ≤ room
    let first := if fits then first else index
    let room := if fits then room else stretchSize
    if isAllowed c then cutFrom first (index + 1) (room - c.utf8Size) rest else some first

def ofChars (s : List Char) : Stream :=
  match cutFrom 0 0 stretchSize s with
  | some n => ⟨s.take n, true⟩
  | none => ⟨s, false⟩

theorem cutFrom_eq_none_iff {first index room : Nat} {s : List Char} :
    cutFrom first index room s = none ↔ ∀ c ∈ s, isAllowed c = true := by
  induction s generalizing first index room with
  | nil => simp [cutFrom]
  | cons c rest ih =>
    by_cases h : isAllowed c = true
    · simp [cutFrom, h, ih]
    · simp [cutFrom, h]

theorem isCut_ofChars {s : List Char} :
    (ofChars s).isCut = false ↔ ∀ c ∈ s, isAllowed c = true := by
  rw [← @cutFrom_eq_none_iff 0 0 stretchSize s, ofChars]
  cases cutFrom 0 0 stretchSize s <;> simp

/-- A stream with nothing refused is the text itself. -/
theorem text_ofChars {s : List Char} (h : ∀ c ∈ s, isAllowed c = true) : (ofChars s).text = s := by
  rw [ofChars, cutFrom_eq_none_iff.2 h]

end Stream
end Yaml
end Motif
