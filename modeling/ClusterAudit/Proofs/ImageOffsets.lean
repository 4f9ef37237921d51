/-
References taken apart by offsets, as a reader does that keeps its text in UTF-8.

The offsets of separators count bytes, and a text can only be cut between two of its
characters: `upTo?` and `from?` fail anywhere else. With the offsets at which references
are taken apart they never do, and they find what is found character by character
(`parseAt?_eq`).
-/
import ClusterAudit.Image

namespace ClusterAudit

namespace Text

/-- How many bytes there are before the first `sep`. -/
def firstOffset? (sep : Char) : List Char → Option Nat
  | [] => none
  | c :: cs => if c = sep then some 0 else (firstOffset? sep cs).map (c.utf8Size + ·)

/-- How many bytes there are before the last `sep`. -/
def lastOffset? (sep : Char) : List Char → Option Nat
  | [] => none
  | c :: cs =>
    match lastOffset? sep cs with
    | some n => some (c.utf8Size + n)
    | none => if c = sep then some 0 else none

/-- The first `n` bytes of `s`. There is no such text if the next byte is beyond the end, or
inside of a character. -/
def upTo? (s : String) (n : Nat) : Option String :=
  if h : String.Pos.Raw.IsValid s ⟨n⟩ then some (s.sliceTo (s.pos ⟨n⟩ h)).copy else none

/-- The bytes of `s` from the offset `n` on, under the same conditions. -/
def from? (s : String) (n : Nat) : Option String :=
  if h : String.Pos.Raw.IsValid s ⟨n⟩ then some (s.sliceFrom (s.pos ⟨n⟩ h)).copy else none

theorem splits_pos {s a b : String} (hs : s = a ++ b)
    (h : String.Pos.Raw.IsValid s ⟨a.utf8ByteSize⟩) : (s.pos ⟨a.utf8ByteSize⟩ h).Splits a b where
  eq_append := hs
  offset_eq_rawEndPos := String.offset_pos

theorem isValid_append (a b : String) : String.Pos.Raw.IsValid (a ++ b) ⟨a.utf8ByteSize⟩ :=
  String.Pos.Raw.isValid_iff_exists_append.2 ⟨a, b, rfl, rfl⟩

theorem upTo?_append (a b : String) : upTo? (a ++ b) a.utf8ByteSize = some a := by
  rw [upTo?, dif_pos (isValid_append a b), (splits_pos rfl (isValid_append a b)).copy_sliceTo_eq]

theorem from?_append (a b : String) : from? (a ++ b) a.utf8ByteSize = some b := by
  rw [from?, dif_pos (isValid_append a b), (splits_pos rfl (isValid_append a b)).copy_sliceFrom_eq]

/-- The bytes of a list of characters. -/
def byteSize (cs : List Char) : Nat := (String.ofList cs).utf8ByteSize

theorem byteSize_nil : byteSize [] = 0 := by simp [byteSize]

theorem byteSize_append (a b : List Char) : byteSize (a ++ b) = byteSize a + byteSize b := by
  simp [byteSize]

theorem byteSize_singleton (c : Char) : byteSize [c] = c.utf8Size := by
  rw [byteSize, ← String.singleton_eq_ofList, String.utf8ByteSize_singleton]

theorem byteSize_cons (c : Char) (cs : List Char) : byteSize (c :: cs) = c.utf8Size + byteSize cs := by
  rw [← byteSize_singleton, ← byteSize_append, List.singleton_append]

theorem firstOffset?_eq (sep : Char) (cs : List Char) :
    firstOffset? sep cs = (cutFirst sep cs).map fun (a, _) => byteSize a := by
  induction cs with
  | nil => rfl
  | cons c cs ih =>
    by_cases hc : c = sep
    · simp [firstOffset?, cutFirst, hc, byteSize_nil]
    · simp [firstOffset?, cutFirst, hc, ih, Option.map_map, Function.comp_def, byteSize_cons]

theorem lastOffset?_eq (sep : Char) (cs : List Char) :
    lastOffset? sep cs = (cutLast sep cs).map fun (a, _) => byteSize a := by
  induction cs with
  | nil => rfl
  | cons c cs ih =>
    rw [lastOffset?, cutLast, ih]
    cases cutLast sep cs with
    | some p => simp [byteSize_cons]
    | none => by_cases hc : c = sep <;> simp [hc, byteSize_nil]

/-- What is before and behind the separator that has the offset `n`. -/
def cutAt? (sep : Char) (s : String) (n : Nat) : Option (String × String) := do
  return (← upTo? s n, ← from? s (n + sep.utf8Size))

/-- A cut at a separator always comes off. -/
theorem cutAt?_eq {sep : Char} {s : String} {a b : List Char} (h : s.toList = a ++ sep :: b) :
    cutAt? sep s (byteSize a) = some (String.ofList a, String.ofList b) := by
  have hbefore : s = String.ofList a ++ String.ofList (sep :: b) := by
    rw [← String.ofList_append, ← h, String.ofList_toList]
  have hbehind : s = String.ofList (a ++ [sep]) ++ String.ofList b := by
    rw [← String.ofList_append, List.append_assoc, List.singleton_append, ← h, String.ofList_toList]
  have hupTo : upTo? s (byteSize a) = some (String.ofList a) := by
    rw [hbefore]
    exact upTo?_append _ _
  have hfrom : from? s (byteSize a + sep.utf8Size) = some (String.ofList b) := by
    rw [hbehind, ← byteSize_singleton, ← byteSize_append]
    exact from?_append _ _
  rw [cutAt?, hupTo, hfrom]
  rfl

end Text

namespace Image

open Text

/-- The last slash is before the last colon just if none follows the colon. -/
theorem lastOffset?_all_lt {cs rest tag : List Char} (h : cutLast ':' cs = some (rest, tag)) :
    (lastOffset? '/' cs).all (· < byteSize rest) = !tag.contains '/' := by
  obtain ⟨hcs, -⟩ := cutLast_eq_some_iff.1 h
  rw [lastOffset?_eq, Bool.eq_iff_iff]
  simp only [Bool.not_eq_true', List.contains_eq_mem, decide_eq_false_iff_not]
  cases hslash : cutLast '/' cs with
  | none =>
    have hnone : '/' ∉ cs := cutLast_eq_none_iff.1 hslash
    rw [hcs] at hnone
    simp_all
  | some p =>
    obtain ⟨before, behind⟩ := p
    obtain ⟨hcs', hbehind⟩ := cutLast_eq_some_iff.1 hslash
    simp only [Option.map_some, Option.all_some, decide_eq_true_iff]
    rcases List.append_eq_append_iff.1 (hcs.symm.trans hcs') with ⟨x, hx, hx'⟩ | ⟨x, hx, hx'⟩
    · -- The slash is behind the colon, and so in the tag.
      cases x with
      | nil => simp at hx'
      | cons c x =>
        obtain ⟨-, htag⟩ := List.cons.inj hx'
        have hsize : byteSize rest ≤ byteSize before := by simp [hx, byteSize_append]
        have hmem : '/' ∈ tag := by simp [htag]
        simp [hmem, hsize]
    · -- The slash is before the colon, and there is none behind it.
      cases x with
      | nil => simp at hx'
      | cons c x =>
        obtain ⟨rfl, htag⟩ := List.cons.inj hx'
        have hsize : byteSize before < byteSize rest := by
          have hslash : ('/' : Char).utf8Size = 1 := rfl
          rw [hx, byteSize_append, byteSize_cons, hslash]
          omega
        have hmem : '/' ∉ tag := fun hmem => hbehind (by simp [htag, hmem])
        simp [hmem, hsize]

/-- Before and behind the first `@`. -/
def splitDigestAt? (s : String) : Option (String × Option String) :=
  match firstOffset? '@' s.toList with
  | some n => (cutAt? '@' s n).map fun (rest, digest) => (rest, some digest)
  | none => some (s, none)

/-- Before and behind the last colon, if the last slash is before it. -/
def splitTagAt? (s : String) : Option (String × Option String) :=
  match lastOffset? ':' s.toList with
  | some colon =>
    if (lastOffset? '/' s.toList).all (· < colon) then
      (cutAt? ':' s colon).map fun (rest, tag) => (rest, some tag)
    else some (s, none)
  | none => some (s, none)

/-- Before and behind the first slash, if what is before it names a host. -/
def splitDomainAt? (s : String) : Option (Option String × String) :=
  match firstOffset? '/' s.toList with
  | some n => (cutAt? '/' s n).map fun (first, path) =>
    if namesHost first.toList then (some first, path) else (none, s)
  | none => some (none, s)

/-- The components of a reference. There are none if one of the cuts would be beyond the end of
the text that is cut, or inside of one of its characters. -/
def parseAt? (s : String) : Option Image := do
  let (rest, digest) ← splitDigestAt? s
  let (rest, tag) ← splitTagAt? rest
  let (domain, path) ← splitDomainAt? rest
  return { domain, path, tag, digest }

theorem splitDigestAt?_eq (s : String) :
    splitDigestAt? s = some (String.ofList (splitDigest s.toList).1,
      (splitDigest s.toList).2.map String.ofList) := by
  rw [splitDigestAt?, splitDigest, firstOffset?_eq]
  cases h : cutFirst '@' s.toList with
  | none => simp
  | some p => simp [cutAt?_eq (cutFirst_eq_some_iff.1 h).1]

theorem splitTagAt?_eq (s : String) :
    splitTagAt? s = some (String.ofList (splitTag s.toList).1,
      (splitTag s.toList).2.map String.ofList) := by
  rw [splitTagAt?, splitTag, lastOffset?_eq]
  cases h : cutLast ':' s.toList with
  | none => simp
  | some p =>
    simp only [Option.map_some, lastOffset?_all_lt h, cutAt?_eq (cutLast_eq_some_iff.1 h).1]
    cases p.2.contains '/' <;> simp

theorem splitDomainAt?_eq (s : String) :
    splitDomainAt? s = some ((splitDomain s.toList).1.map String.ofList,
      String.ofList (splitDomain s.toList).2) := by
  rw [splitDomainAt?, splitDomain, firstOffset?_eq]
  cases h : cutFirst '/' s.toList with
  | none => simp
  | some p =>
    simp only [Option.map_some, cutAt?_eq (cutFirst_eq_some_iff.1 h).1, String.toList_ofList]
    cases namesHost p.1 <;> simp

/-- **Every cut is between two characters.** -/
theorem parseAt?_eq (s : String) : parseAt? s = some (parse s) := by
  simp [parseAt?, parse, splitDigestAt?_eq, splitTagAt?_eq, splitDomainAt?_eq]

end Image

end ClusterAudit
