import RoleSync.Text.Json
/-!
Reading back what is written. The text of a list of strings reads back as that list: each
character of a string is written as itself or as an escape that the reader turns back into it,
and the brackets, quotes and commas around the strings lead the reader through its states in
order (`readStrings_writeStrings`).
-/

namespace RoleSync.Text.Json

set_option autoImplicit false

/-- A hexadecimal digit reads back as its value. -/
theorem hexValue?_hexDigit {d : Nat} (h : d < 16) : hexValue? (hexDigit d) = some d := by
  have hall : ∀ d < 16, hexValue? (hexDigit d) = some d := by decide
  exact hall d h

/-- The reader takes the escaped form of a character, inside a string, back to the
character. -/
theorem readFrom_escapeChar (c : Char) (done : List String) (acc rest : List Char) :
    readFrom done (.inString acc) (escapeChar c ++ rest) =
      readFrom done (.inString (c :: acc)) rest := by
  unfold escapeChar
  by_cases h1 : c = '"'
  · subst h1; rfl
  by_cases h2 : c = '\\'
  · subst h2; rfl
  by_cases h3 : c = '\n'
  · subst h3; rfl
  by_cases h4 : c = '\r'
  · subst h4; rfl
  by_cases h5 : c = '\t'
  · subst h5; rfl
  by_cases h6 : c.toNat = 8
  · have hc : c = Char.ofNat 8 := by rw [← h6, Char.ofNat_toNat]
    subst hc; rfl
  by_cases h7 : c.toNat = 12
  · have hc : c = Char.ofNat 12 := by rw [← h7, Char.ofNat_toNat]
    subst hc; rfl
  by_cases h8 : c.toNat < 32
  · simp only [h1, h2, h3, h4, h5, h6, h7, h8, if_false, if_true]
    have hhi : c.toNat / 16 < 16 := by omega
    have hlo : c.toNat % 16 < 16 := Nat.mod_lt _ (by decide)
    have h0 : hexValue? '0' = some 0 := by decide
    -- the four digits give back the code of the character, which is no surrogate
    have hcode : c.toNat / 16 * 16 + c.toNat % 16 = c.toNat := by omega
    have hlead : isLead c.toNat = false := by simp [isLead]; omega
    have htrail : isTrail c.toNat = false := by simp [isTrail]; omega
    simp [readFrom, step, h0, hexValue?_hexDigit hhi, hexValue?_hexDigit hlo, hcode,
      finishEscape, hlead, htrail]
  · simp only [h1, h2, h3, h4, h5, h6, h7, h8, if_false, List.singleton_append]
    simp only [readFrom, step, h1, h2, h8, if_false]

/-- The escaped characters of a string read back, inside a string, in order. -/
theorem readFrom_escaped (cs : List Char) (done : List String) (acc rest : List Char) :
    readFrom done (.inString acc) (cs.flatMap escapeChar ++ rest) =
      readFrom done (.inString (cs.reverse ++ acc)) rest := by
  induction cs generalizing acc with
  | nil => rfl
  | cons c cs ih =>
    rw [List.flatMap_cons, List.append_assoc, readFrom_escapeChar, ih]
    simp

/-- A written string literal reads back as the string, from a state where a string may
start. -/
theorem readFrom_quote (s : String) (done : List String) {st : ArrayState}
    (hst : st = .opened ∨ st = .expectString) (rest : List Char) :
    readFrom done st ((quote s).toList ++ rest) = readFrom (s :: done) .afterString rest := by
  have hopen : step done '"' st = some (done, .inString []) := by
    rcases hst with rfl | rfl <;> rfl
  simp only [quote, String.toList_ofList, List.cons_append, readFrom, hopen]
  rw [List.append_assoc, readFrom_escaped]
  simp [readFrom, step, String.ofList_toList]

/-- After a string, each further string after its comma, then the closing bracket, read back
as the strings read so far and the further ones. -/
theorem readFrom_afterString (ys done : List String) :
    readFrom done .afterString (ys.flatMap (fun y => ',' :: (quote y).toList) ++ [']']) =
      some (done.reverse ++ ys) := by
  induction ys generalizing done with
  | nil =>
    have hclose : step done ']' .afterString = some (done, .closed) := rfl
    simp [readFrom, hclose]
  | cons y ys ih =>
    simp only [List.flatMap_cons, List.cons_append, List.append_assoc]
    have hcomma : step done ',' .afterString = some (done, .expectString) := rfl
    simp only [readFrom, hcomma]
    rw [readFrom_quote y done (.inr rfl), ih]
    simp

theorem intercalate_comma (f : String → List Char) (x : String) (xs : List String) :
    [','].intercalate ((x :: xs).map f) = f x ++ xs.flatMap (fun y => ',' :: f y) := by
  induction xs generalizing x with
  | nil => simp
  | cons y ys ih =>
    rw [List.map_cons, List.map_cons, List.intercalate_cons_cons, ← List.map_cons, ih]
    simp

/-- The text of a list of strings reads back as the list. -/
theorem readStrings_writeStrings (xs : List String) : readStrings (writeStrings xs) = some xs := by
  cases xs with
  | nil => decide
  | cons x xs =>
    have htext : (writeStrings (x :: xs)).toList =
        '[' :: ((quote x).toList ++ (xs.flatMap (fun y => ',' :: (quote y).toList) ++ [']'])) := by
      have hl : "[".toList = ['['] := rfl
      have hc : ",".toList = [','] := rfl
      have hr : "]".toList = [']'] := rfl
      simp only [writeStrings, String.toList_append, String.toList_intercalate, List.map_map, hl,
        hc, hr]
      rw [intercalate_comma]
      simp
    have hopen : step [] '[' .start = some ([], .opened) := rfl
    rw [readStrings, htext]
    simp only [readFrom, hopen]
    rw [readFrom_quote x [] (.inl rfl), readFrom_afterString]
    simp

end RoleSync.Text.Json
