/-
Printed JSON is read back, in one line or indented.

Between the text of a value and the value stand its tokens (`Json.tokens`). Both
printers write them (`yields_compact`, `yields_indented`), blanks or not, and reading them
builds the value up again (`reads_tokens`). Numbers are left aside: nothing that this
program prints has any.
-/
import Mathlib.Data.List.Forall2
import ClusterAudit.Json

namespace ClusterAudit.Json

/-! ## The tokens of a value -/

mutual

def tokens : Json → List Token
  | .arr items => .openArr :: [.comma].intercalate (itemTokens items) ++ [.closeArr]
  | .obj fields => .openObj :: [.comma].intercalate (fieldTokens fields) ++ [.closeObj]
  | .str s => [.str s]
  | .broken => [.broken]
  | .null => [.scalar .null]
  | .bool b => [.scalar (.bool b)]
  | .int n => [.scalar (.int n)]
  | .decimal digits => [.scalar (.decimal digits)]

def itemTokens : List Json → List (List Token)
  | [] => []
  | j :: rest => tokens j :: itemTokens rest

def fieldTokens : List (String × Json) → List (List Token)
  | [] => []
  | (name, j) :: rest => (.str name :: .colon :: tokens j) :: fieldTokens rest

end

mutual

/-- Whether a value can be printed and read back without any number: none is in it, and no
half of a surrogate pair. -/
def isNumberless : Json → Bool
  | .null | .bool _ | .str _ => true
  | .int _ | .decimal _ | .broken => false
  | .arr items => areNumberless items
  | .obj fields => fieldsNumberless fields

def areNumberless : List Json → Bool
  | [] => true
  | j :: rest => isNumberless j && areNumberless rest

def fieldsNumberless : List (String × Json) → Bool
  | [] => true
  | (_, j) :: rest => isNumberless j && fieldsNumberless rest

end

/-- What is between separators, as the first part and the others with a separator each. -/
theorem intercalate_cons {α : Type} (a : α) (l : List α) (ls : List (List α)) :
    [a].intercalate (l :: ls) = l ++ ls.flatMap (a :: ·) := by
  induction ls generalizing l with
  | nil => simp
  | cons l' ls ih => rw [List.intercalate_cons_cons, ih, List.flatMap_cons, List.append_assoc]; rfl

/-! ## Reading tokens -/

/-- The first item of an array is read like any other. -/
theorem foldlM_firstItem (j : Json) (done : List Json) (stack : List Frame) (ts : List Token) :
    (tokens j ++ ts).foldlM Reading.step (.within .firstItem (.items done :: stack)) =
      (tokens j ++ ts).foldlM Reading.step (.within .value (.items done :: stack)) := by
  cases j <;> rfl

mutual

/-- The tokens of a value are read as this value, whatever comes after them. -/
theorem reads_tokens : ∀ (j : Json) (stack : List Frame) (ts : List Token),
    (tokens j ++ ts).foldlM Reading.step (.within .value stack) =
      ts.foldlM Reading.step (Reading.deliver j stack)
  | .null, _, _ => rfl
  | .bool _, _, _ => rfl
  | .int _, _, _ => rfl
  | .decimal _, _, _ => rfl
  | .str _, _, _ => rfl
  | .broken, _, _ => rfl
  | .arr [], _, _ => rfl
  | .arr (j :: items), stack, ts => by
    -- After the bracket there may be nothing at all, so the first item has a state of its own.
    have hopen : (tokens (.arr (j :: items)) ++ ts).foldlM Reading.step (.within .value stack) =
        (tokens j ++ ((itemTokens items).flatMap (.comma :: ·) ++ .closeArr :: ts)).foldlM Reading.step
          (.within .firstItem (.items [] :: stack)) := by
      rw [tokens, itemTokens, intercalate_cons]
      simp only [List.cons_append, List.append_assoc, List.nil_append]
      rfl
    rw [hopen, foldlM_firstItem, reads_tokens j]
    exact reads_items items [j] stack ts
  | .obj [], _, _ => rfl
  | .obj ((name, j) :: fields), stack, ts => by
    have hopen : (tokens (.obj ((name, j) :: fields)) ++ ts).foldlM Reading.step (.within .value stack) =
        (tokens j ++ ((fieldTokens fields).flatMap (.comma :: ·) ++ .closeObj :: ts)).foldlM Reading.step
          (.within .value (.fields [] name true :: stack)) := by
      rw [tokens, fieldTokens, intercalate_cons]
      simp only [List.cons_append, List.append_assoc, List.nil_append]
      rfl
    rw [hopen, reads_tokens j]
    exact reads_fields fields [(name, j)] name stack ts

/-- The items that are left, up to the end of the array. Those that are `done` are kept the
last one first. -/
theorem reads_items : ∀ (items done : List Json) (stack : List Frame) (ts : List Token),
    ((itemTokens items).flatMap (.comma :: ·) ++ .closeArr :: ts).foldlM Reading.step
        (.within .afterValue (.items done :: stack)) =
      ts.foldlM Reading.step (Reading.deliver (.arr (done.reverse ++ items)) stack)
  | [], done, stack, ts => by
    rw [List.append_nil]
    rfl
  | j :: items, done, stack, ts => by
    have hcomma : ((itemTokens (j :: items)).flatMap (.comma :: ·) ++ .closeArr :: ts).foldlM Reading.step
          (.within .afterValue (.items done :: stack)) =
        (tokens j ++ ((itemTokens items).flatMap (.comma :: ·) ++ .closeArr :: ts)).foldlM Reading.step
          (.within .value (.items done :: stack)) := by
      rw [itemTokens, List.flatMap_cons]
      simp only [List.cons_append, List.append_assoc]
      rfl
    rw [hcomma, reads_tokens j]
    have hrest := reads_items items (j :: done) stack ts
    rwa [List.reverse_cons, List.append_assoc, List.singleton_append] at hrest

/-- The fields that are left, up to the end of the object. -/
theorem reads_fields : ∀ (fields done : List (String × Json)) (last : String) (stack : List Frame)
    (ts : List Token),
    ((fieldTokens fields).flatMap (.comma :: ·) ++ .closeObj :: ts).foldlM Reading.step
        (.within .afterValue (.fields done last true :: stack)) =
      ts.foldlM Reading.step (Reading.deliver (.obj (done.reverse ++ fields)) stack)
  | [], done, last, stack, ts => by
    rw [List.append_nil]
    rfl
  | (name, j) :: fields, done, last, stack, ts => by
    have hcomma : ((fieldTokens ((name, j) :: fields)).flatMap (.comma :: ·) ++ .closeObj :: ts).foldlM
          Reading.step (.within .afterValue (.fields done last true :: stack)) =
        (tokens j ++ ((fieldTokens fields).flatMap (.comma :: ·) ++ .closeObj :: ts)).foldlM
          Reading.step (.within .value (.fields done name true :: stack)) := by
      rw [fieldTokens, List.flatMap_cons]
      simp only [List.cons_append, List.append_assoc]
      rfl
    rw [hcomma, reads_tokens j]
    have hrest := reads_fields fields ((name, j) :: done) name stack ts
    rwa [List.reverse_cons, List.append_assoc, List.singleton_append] at hrest

end

theorem ofTokens?_tokens (j : Json) : ofTokens? (tokens j) = some j := by
  have hread := reads_tokens j [] []
  rw [List.append_nil] at hread
  rw [ofTokens?, hread]
  rfl

/-! ## Reading strings -/

theorem tokensFrom?_cons {st st' : Lexing} {ts ts' : List Token} {c : Char}
    (h : st.step ts c = some (st', ts')) (cs : List Char) :
    tokensFrom? st ts (c :: cs) = tokensFrom? st' ts' cs := by
  rw [tokensFrom?, h]

theorem hexDigit?_digitChar : ∀ n < 16, Text.hexDigit? (Nat.digitChar n) = some n := by decide

theorem toDigits_control : ∀ n < 16, Nat.toDigits 16 n = [Nat.digitChar n] ∧
    Nat.toDigits 16 (16 + n) = ['1', Nat.digitChar n] := by decide

theorem numbered_toNat {c : Char} (h : c.toNat < 0x20) (t : Partial) :
    Lexing.numbered t c.toNat none = .text (t.push c) := by
  have hhigh : ¬ 0xD800 ≤ c.toNat := by omega
  have hlow : ¬ 0xDC00 ≤ c.toNat := by omega
  simp [Lexing.numbered, hhigh, hlow, Char.ofNat_toNat]

/-- A control in its four digits. -/
theorem tokensFrom?_control {c d e : Char} {m n : Nat} (hd : Text.hexDigit? d = some m)
    (he : Text.hexDigit? e = some n) (hc : c.toNat = m * 16 + n) (hlt : c.toNat < 0x20) (t : Partial)
    (ts : List Token) (rest : List Char) :
    tokensFrom? (.text t) ts ('\\' :: 'u' :: '0' :: '0' :: d :: e :: rest) =
      tokensFrom? (.text (t.push c)) ts rest := by
  have hd' : (Lexing.digits t 2 0 none).step ts d = some (.digits t 1 m none, ts) := by
    simp [Lexing.step, hd]
  have he' : (Lexing.digits t 1 m none).step ts e = some (.text (t.push c), ts) := by
    simp [Lexing.step, he, ← hc, numbered_toNat hlt]
  calc tokensFrom? (.text t) ts ('\\' :: 'u' :: '0' :: '0' :: d :: e :: rest)
      = tokensFrom? (.digits t 2 0 none) ts (d :: e :: rest) := rfl
    _ = tokensFrom? (.digits t 1 m none) ts (e :: rest) := tokensFrom?_cons hd' _
    _ = tokensFrom? (.text (t.push c)) ts rest := tokensFrom?_cons he' _

theorem tokensFrom?_escaped (c : Char) (t : Partial) (ts : List Token) (rest : List Char) :
    tokensFrom? (.text t) ts (escaped c ++ rest) = tokensFrom? (.text (t.push c)) ts rest := by
  have hzero : Text.hexDigit? '0' = some 0 := by decide
  have hone : Text.hexDigit? '1' = some 1 := by decide
  unfold escaped
  split
  · rfl
  · rfl
  · rfl
  · rfl
  · rfl
  next hquote hslash _ _ _ =>
    split
    next h =>
      obtain rfl : c = '\x08' := Char.toNat_inj.1 h
      rfl
    split
    next h =>
      obtain rfl : c = '\x0c' := Char.toNat_inj.1 h
      rfl
    split
    next h =>
      obtain ⟨hdigits, -⟩ := toDigits_control c.toNat h
      rw [hdigits]
      exact tokensFrom?_control hzero (hexDigit?_digitChar _ h) (by omega) (by omega) t ts rest
    split
    next hge hlt =>
      obtain ⟨n, hn⟩ : ∃ n, c.toNat = 16 + n := ⟨c.toNat - 16, by omega⟩
      obtain ⟨-, hdigits⟩ := toDigits_control n (by omega)
      rw [hn, hdigits]
      exact tokensFrom?_control hone (hexDigit?_digitChar n (by omega)) (by omega) (by omega) t ts rest
    next hge =>
      have hplain : (Lexing.text t).step ts c = some (.text (t.push c), ts) := by
        have hquote : c ≠ '"' := hquote
        have hslash : c ≠ '\\' := hslash
        simp [Lexing.step, Lexing.inText, hquote, hslash, hge]
      exact tokensFrom?_cons hplain rest

theorem tokensFrom?_text (cs : List Char) (t : Partial) (ts : List Token) (rest : List Char) :
    tokensFrom? (.text t) ts (cs.flatMap escaped ++ '"' :: rest) =
      tokensFrom? .between (({ t with cs := cs.reverse ++ t.cs } : Partial).token :: ts) rest := by
  induction cs generalizing t with
  | nil => rfl
  | cons c cs ih =>
    rw [List.flatMap_cons, List.append_assoc, tokensFrom?_escaped, ih, List.reverse_cons, List.append_assoc]
    rfl

/-! ## Reading text -/

/-- As long as what follows is as `P` says, `cs` is read as the tokens `us`. -/
def Yields (P : List Char → Prop) (cs : List Char) (us : List Token) : Prop :=
  ∀ ts rest, P rest → tokensFrom? .between ts (cs ++ rest) = tokensFrom? .between (us.reverse ++ ts) rest

def Anything (_ : List Char) : Prop := True

/-- Where `rest` begins, a word ends. -/
def EndsWord (rest : List Char) : Prop := ∀ c ∈ rest.head?, (isSpace c || (mark? c).isSome) = true

theorem endsWord_cons {c : Char} (h : (isSpace c || (mark? c).isSome) = true) (rest : List Char) :
    EndsWord (c :: rest) := by
  intro d hd
  obtain rfl : c = d := by simpa using hd
  exact h

namespace Yields

variable {P Q : List Char → Prop} {cs ds : List Char} {us vs : List Token}

theorem nil : Yields P [] [] := fun _ _ _ => rfl

theorem anywhere (h : Yields Anything cs us) : Yields P cs us := fun ts rest _ => h ts rest trivial

theorem append (h : Yields P cs us) (h' : Yields Q ds vs) (hnext : ∀ rest, Q rest → P (ds ++ rest)) :
    Yields Q (cs ++ ds) (us ++ vs) := by
  intro ts rest hrest
  rw [List.append_assoc, h ts _ (hnext rest hrest), h' _ rest hrest, List.reverse_append, List.append_assoc]

theorem newline (depth : Nat) : Yields Anything (Json.newline depth).toList [] := by
  intro ts rest _
  have hspaces : ∀ n, tokensFrom? .between ts (List.replicate n ' ' ++ rest) =
      tokensFrom? .between ts rest := by
    intro n
    induction n with
    | zero => rfl
    | succ n ih => exact ih
  rw [Json.newline, String.toList_ofList]
  exact hspaces (2 * depth)

theorem followedByNewline (h : Yields EndsWord cs us) (depth : Nat) :
    Yields Anything (cs ++ (Json.newline depth).toList) us := by
  have hends : ∀ rest, EndsWord ((Json.newline depth).toList ++ rest) := by
    rw [Json.newline, String.toList_ofList]
    exact endsWord_cons (by decide)
  simpa using h.append (newline depth) fun rest _ => hends rest

theorem string (s : String) : Yields Anything (quoted s).toList [.str s] := by
  intro ts rest _
  have htoken : ({ cs := s.toList.reverse ++ [] } : Partial).token = .str s := by
    simp [Partial.token]
  rw [quoted, String.toList_ofList, List.append_assoc, ← htoken]
  exact tokensFrom?_text s.toList {} ts rest

/-- A word is only over where something follows that cannot belong to it. -/
theorem word {j : Json} (hw : word? cs = some j)
    (hstart : ∀ ts rest, tokensFrom? .between ts (cs ++ rest) = tokensFrom? (.word cs.reverse) ts rest) :
    Yields EndsWord cs [.scalar j] := by
  intro ts rest hrest
  rw [hstart]
  cases rest with
  | nil => simp [tokensFrom?, hw]
  | cons c rest =>
    have hends : (isSpace c || (mark? c).isSome) = true := hrest c rfl
    simp [tokensFrom?, Lexing.step, hw, hends]

theorem intercalate {sep : List Char} (hsep : Yields Anything sep [.comma])
    (hends : ∀ rest, EndsWord (sep ++ rest)) {parts : List (List Char)} {uss : List (List Token)}
    (h : List.Forall₂ (Yields EndsWord) parts uss) :
    Yields EndsWord (sep.intercalate parts) ([.comma].intercalate uss) := by
  induction h with
  | nil => exact nil
  | cons hpart hrest ih =>
    cases hrest with
    | nil => simpa using hpart
    | cons hpart' hrest =>
      rw [List.intercalate_cons_cons, List.intercalate_cons_cons]
      have hbefore : Yields Anything _ _ := hpart.append hsep fun rest _ => hends rest
      exact hbefore.append ih fun _ _ => trivial

/-- A bracket, or any other mark that ends a word, at either side. -/
theorem enclosed {opening closing : List Char} {t t' : Token} (hopen : Yields Anything opening [t])
    (hclose : Yields Anything closing [t']) (hends : ∀ rest, EndsWord (closing ++ rest))
    (h : Yields EndsWord cs us) : Yields Anything (opening ++ cs ++ closing) (t :: us ++ [t']) := by
  have hinner : Yields EndsWord (opening ++ cs) ([t] ++ us) := hopen.append h fun _ _ => trivial
  exact hinner.append hclose fun rest _ => hends rest

theorem inBrackets (h : Yields EndsWord cs us) :
    Yields Anything ("[".toList ++ cs ++ "]".toList) (.openArr :: us ++ [.closeArr]) :=
  enclosed (fun _ _ _ => rfl) (fun _ _ _ => rfl) (endsWord_cons (by decide)) h

theorem inBraces (h : Yields EndsWord cs us) :
    Yields Anything ("\x7b".toList ++ cs ++ "\x7d".toList) (.openObj :: us ++ [.closeObj]) :=
  enclosed (fun _ _ _ => rfl) (fun _ _ _ => rfl) (endsWord_cons (by decide)) h

theorem comma : Yields Anything ",".toList [.comma] := fun _ _ _ => rfl

end Yields

/-! ## In one line -/

mutual

theorem yields_compact : ∀ (j : Json), j.isNumberless = true →
    Yields EndsWord (compact j).toList (tokens j)
  | .null, _ => .word rfl fun _ _ => rfl
  | .bool true, _ => .word rfl fun _ _ => rfl
  | .bool false, _ => .word rfl fun _ _ => rfl
  | .str s, _ => (Yields.string s).anywhere
  | .arr items, h => by
    have hitems := Yields.comma.intercalate (endsWord_cons (by decide)) (yields_compactItems items h)
    rw [compact, String.toList_append, String.toList_append, String.toList_intercalate]
    exact hitems.inBrackets.anywhere
  | .obj fields, h => by
    have hfields := Yields.comma.intercalate (endsWord_cons (by decide)) (yields_compactFields fields h)
    rw [compact, String.toList_append, String.toList_append, String.toList_intercalate]
    exact hfields.inBraces.anywhere

theorem yields_compactItems : ∀ (items : List Json), areNumberless items = true →
    List.Forall₂ (Yields EndsWord) ((compactItems items).map String.toList) (itemTokens items)
  | [], _ => .nil
  | j :: items, h => by
    obtain ⟨hj, hitems⟩ := Bool.and_eq_true_iff.1 h
    exact .cons (yields_compact j hj) (yields_compactItems items hitems)

theorem yields_compactFields : ∀ (fields : List (String × Json)), fieldsNumberless fields = true →
    List.Forall₂ (Yields EndsWord) ((compactFields fields).map String.toList) (fieldTokens fields)
  | [], _ => .nil
  | (name, j) :: fields, h => by
    obtain ⟨hj, hfields⟩ := Bool.and_eq_true_iff.1 h
    have hname : Yields Anything ((quoted name).toList ++ ":".toList) [.str name, .colon] :=
      (Yields.string name).append (fun _ _ _ => rfl) fun _ _ => trivial
    refine .cons ?_ (yields_compactFields fields hfields)
    simpa using hname.append (yields_compact j hj) fun _ _ => trivial

end

/-! ## Indented -/

/-- What stands between the brackets of an array or object that is printed as a block. -/
def blockInside (depth : Nat) (parts : List (List Char)) : List Char :=
  if parts.isEmpty then []
  else (newline (depth + 1)).toList ++ (",".toList ++ (newline (depth + 1)).toList).intercalate parts ++
    (newline depth).toList

theorem toList_block (opening closing : String) (depth : Nat) (parts : List String) :
    (block opening closing depth parts).toList =
      opening.toList ++ blockInside depth (parts.map String.toList) ++ closing.toList := by
  unfold block blockInside
  cases parts with
  | nil => simp
  | cons part parts => simp [String.toList_intercalate]

theorem yields_blockInside (depth : Nat) {parts : List (List Char)} {uss : List (List Token)}
    (h : List.Forall₂ (Yields EndsWord) parts uss) :
    Yields EndsWord (blockInside depth parts) ([.comma].intercalate uss) := by
  have hsep : Yields Anything (",".toList ++ (newline (depth + 1)).toList) [.comma] :=
    Yields.comma.append (.newline _) fun _ _ => trivial
  have hparts := hsep.intercalate (endsWord_cons (by decide)) h
  unfold blockInside
  split
  · next hnone =>
    cases h with
    | nil => exact .nil
    | cons _ _ => cases hnone
  · have hopened : Yields EndsWord _ ([] ++ [.comma].intercalate uss) :=
      (Yields.newline (depth + 1)).append hparts fun _ _ => trivial
    have hclosed := hopened.followedByNewline depth
    exact hclosed.anywhere

mutual

theorem yields_indented : ∀ (j : Json) (depth : Nat), j.isNumberless = true →
    Yields EndsWord (indented depth j).toList (tokens j)
  | .null, _, _ => yields_compact .null rfl
  | .bool b, _, _ => yields_compact (.bool b) rfl
  | .str s, _, _ => yields_compact (.str s) rfl
  | .arr items, depth, h => by
    have hitems := yields_blockInside depth (yields_indentedItems items (depth + 1) h)
    rw [indented, toList_block]
    exact hitems.inBrackets.anywhere
  | .obj fields, depth, h => by
    have hfields := yields_blockInside depth (yields_indentedFields fields (depth + 1) h)
    rw [indented, toList_block]
    exact hfields.inBraces.anywhere

theorem yields_indentedItems : ∀ (items : List Json) (depth : Nat), areNumberless items = true →
    List.Forall₂ (Yields EndsWord) ((indentedItems depth items).map String.toList) (itemTokens items)
  | [], _, _ => .nil
  | j :: items, depth, h => by
    obtain ⟨hj, hitems⟩ := Bool.and_eq_true_iff.1 h
    exact .cons (yields_indented j depth hj) (yields_indentedItems items depth hitems)

theorem yields_indentedFields : ∀ (fields : List (String × Json)) (depth : Nat),
    fieldsNumberless fields = true →
    List.Forall₂ (Yields EndsWord) ((indentedFields depth fields).map String.toList) (fieldTokens fields)
  | [], _, _ => .nil
  | (name, j) :: fields, depth, h => by
    obtain ⟨hj, hfields⟩ := Bool.and_eq_true_iff.1 h
    have hname : Yields Anything ((quoted name).toList ++ ": ".toList) [.str name, .colon] :=
      (Yields.string name).append (fun _ _ _ => rfl) fun _ _ => trivial
    refine .cons ?_ (yields_indentedFields fields depth hfields)
    simpa using hname.append (yields_indented j depth hj) fun _ _ => trivial

end

/-! ## The whole -/

theorem parse?_of_yields {j : Json} {text : String} (h : Yields EndsWord text.toList (tokens j)) :
    parse? text = some j := by
  have htokens : tokens? text.toList = some (tokens j) := by
    have hend := h [] [] fun _ hc => by cases hc
    simpa [tokens?, tokensFrom?] using hend
  rw [parse?, htokens]
  exact ofTokens?_tokens j

/-- **JSON in one line is read back.** -/
theorem parse?_compact {j : Json} (h : j.isNumberless = true) : parse? (compact j) = some j :=
  parse?_of_yields (yields_compact j h)

/-- **Indented JSON is read back**, with a newline at the end of it. -/
theorem parse?_pretty {j : Json} (h : j.isNumberless = true) : parse? (pretty j ++ "\n") = some j := by
  have hnewline : newline 0 = "\n" := rfl
  have hended := (yields_indented j 0 h).followedByNewline 0
  rw [hnewline, ← String.toList_append] at hended
  exact parse?_of_yields hended.anywhere

end ClusterAudit.Json
