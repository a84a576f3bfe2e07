import Mathlib.Tactic.SplitIfs
import StackFlow.Stack.State

/-!
# What a signature tells

The escaped forms of characters form a prefix code whichever characters can be shown, so a quoted
text says where it ends and which text it quotes. The entries of a signature can therefore be read
off one after the other: two states have the same signature exactly when they hold the same types
and values.
-/

namespace StackFlow

namespace Text

theorem append_delimiter_inj {delimiter : Char} {left right leftRest rightRest : List Char}
    (leftFree : delimiter ∉ left) (rightFree : delimiter ∉ right)
    (same : left ++ delimiter :: leftRest = right ++ delimiter :: rightRest) :
    left = right ∧ leftRest = rightRest := by
  induction left generalizing right with
  | nil =>
      cases right with
      | nil => simpa using same
      | cons second right => exact absurd (by simp [(List.cons.inj same).1]) rightFree
  | cons first left ih =>
      cases right with
      | nil => exact absurd (by simp [(List.cons.inj same).1]) leftFree
      | cons second right =>
          simp only [List.cons_append, List.cons.injEq] at same
          simp only [List.mem_cons, not_or] at leftFree rightFree
          obtain ⟨rfl, rfl⟩ := ih leftFree.2 rightFree.2 same.2
          exact ⟨by rw [same.1], rfl⟩

theorem digitChar_injective {left right : Nat} (leftSmall : left < 16) (rightSmall : right < 16)
    (same : left.digitChar = right.digitChar) : left = right := by
  have table : ∀ left : Fin 16, ∀ right : Fin 16,
      left.val.digitChar = right.val.digitChar → left = right := by decide
  exact congrArg Fin.val (table ⟨left, leftSmall⟩ ⟨right, rightSmall⟩ same)

theorem hexadecimal_eq (n : Nat) :
    hexadecimal n =
      if n < 16 then [n.digitChar] else hexadecimal (n / 16) ++ [(n % 16).digitChar] :=
  Nat.toDigits_eq_if (by decide)

theorem hexadecimal_injective {left right : Nat} (same : hexadecimal left = hexadecimal right) :
    left = right := by
  have nonempty : ∀ n, hexadecimal n ≠ [] := fun _ => Nat.toDigits_ne_nil
  induction left using Nat.strongRecOn generalizing right with
  | ind left ih =>
      rw [hexadecimal_eq left, hexadecimal_eq right] at same
      by_cases leftSmall : left < 16 <;> by_cases rightSmall : right < 16
      · simp only [leftSmall, rightSmall, if_true, List.cons.injEq, and_true] at same
        exact digitChar_injective leftSmall rightSmall same
      · simp [leftSmall, rightSmall, List.singleton_eq_append_iff, nonempty] at same
      · simp [leftSmall, rightSmall, List.append_eq_singleton_iff, nonempty] at same
      · simp only [leftSmall, rightSmall, if_false] at same
        obtain ⟨sameHigh, sameLow⟩ := List.append_inj' same rfl
        have high : left / 16 = right / 16 := ih (left / 16) (by omega) sameHigh
        have low : left % 16 = right % 16 := by
          refine digitChar_injective (Nat.mod_lt _ (by decide)) (Nat.mod_lt _ (by decide)) ?_
          simpa using sameLow
        omega

theorem closingBrace_notMem_hexadecimal (n : Nat) : '\x7d' ∉ hexadecimal n := by
  have table : ∀ digit : Fin 16, '\x7d' ≠ digit.val.digitChar := by decide
  induction n using Nat.strongRecOn with
  | ind n ih =>
      rw [hexadecimal_eq n]
      by_cases small : n < 16
      · simp [small, table ⟨n, small⟩]
      · simp only [small, if_false, List.mem_append, List.mem_singleton, not_or]
        exact ⟨ih (n / 16) (by omega), table ⟨n % 16, Nat.mod_lt _ (by decide)⟩⟩

/-- The characters that are written by a letter after a backslash, with their letters. -/
def letters : List (Char × Char) :=
  [('"', '"'), ('\\', '\\'), ('\t', 't'), ('\r', 'r'), ('\n', 'n'), ('\x00', '0')]

/-- The three shapes that an escaped character can have. -/
inductive Escaped : Char → List Char → Prop where
  | shown {c : Char} : c ≠ '"' → c ≠ '\\' → Escaped c [c]
  | letter {c letter : Char} : (c, letter) ∈ letters → Escaped c ['\\', letter]
  | code (c : Char) : Escaped c ('\\' :: 'u' :: '\x7b' :: (hexadecimal c.toNat ++ ['\x7d']))

theorem escaped_escape (printable : Char → Bool) (c : Char) : Escaped c (escape printable c) := by
  unfold escape
  split_ifs with quote backslash tab return_ newline zero shown
  · exact .letter (by simp [letters, quote])
  · exact .letter (by simp [letters, backslash])
  · exact .letter (by simp [letters, tab])
  · exact .letter (by simp [letters, return_])
  · exact .letter (by simp [letters, newline])
  · exact .letter (by simp [letters, zero])
  · exact .shown quote backslash
  · exact .code c

theorem Escaped.append_inj {left right : Char} {leftText rightText leftRest rightRest : List Char}
    (leftEscaped : Escaped left leftText) (rightEscaped : Escaped right rightText)
    (same : leftText ++ leftRest = rightText ++ rightRest) :
    left = right ∧ leftRest = rightRest := by
  have determined : ∀ first ∈ letters, ∀ second ∈ letters, first.2 = second.2 →
      first.1 = second.1 := by decide
  have noCode : ∀ pair ∈ letters, pair.2 ≠ 'u' := by decide
  cases leftEscaped with
  | shown _ leftPlain =>
      cases rightEscaped with
      | shown => simpa using same
      | letter => exact absurd (List.cons.inj same).1 leftPlain
      | code => exact absurd (List.cons.inj same).1 leftPlain
  | letter leftMember =>
      cases rightEscaped with
      | shown _ rightPlain => exact absurd (List.cons.inj same).1.symm rightPlain
      | letter rightMember =>
          simp only [List.cons_append, List.nil_append, List.cons.injEq, true_and] at same
          exact ⟨determined _ leftMember _ rightMember same.1, same.2⟩
      | code =>
          simp only [List.cons_append, List.nil_append, List.cons.injEq, true_and] at same
          exact absurd same.1 (noCode _ leftMember)
  | code =>
      cases rightEscaped with
      | shown _ rightPlain => exact absurd (List.cons.inj same).1.symm rightPlain
      | letter rightMember =>
          simp only [List.cons_append, List.nil_append, List.cons.injEq, true_and] at same
          exact absurd same.1.symm (noCode _ rightMember)
      | code =>
          simp only [List.cons_append, List.append_assoc, List.nil_append, List.cons.injEq,
            true_and] at same
          obtain ⟨sameDigits, sameRest⟩ := append_delimiter_inj
            (closingBrace_notMem_hexadecimal _) (closingBrace_notMem_hexadecimal _) same
          exact ⟨Char.toNat_inj.1 (hexadecimal_injective sameDigits), sameRest⟩

theorem Escaped.not_quote {c : Char} {text rest tail : List Char} (escaped : Escaped c text)
    (same : text ++ rest = '"' :: tail) : False := by
  cases escaped with
  | shown noQuote => exact noQuote (List.cons.inj same).1
  | letter => exact absurd (List.cons.inj same).1 (by decide)
  | code => exact absurd (List.cons.inj same).1 (by decide)

/-- A quoted text ends where its closing quote stands, whatever follows. -/
theorem quoteChars_append_inj {printable : Char → Bool} {left right leftRest rightRest : List Char}
    (same : quoteChars printable left ++ leftRest = quoteChars printable right ++ rightRest) :
    left = right ∧ leftRest = rightRest := by
  simp only [quoteChars, List.cons_append, List.append_assoc, List.nil_append, List.cons.injEq,
    true_and] at same
  induction left generalizing right with
  | nil =>
      cases right with
      | nil => simpa using same
      | cons first right =>
          simp only [List.flatMap_cons, List.append_assoc] at same
          exact ((escaped_escape printable first).not_quote same.symm).elim
  | cons first left ih =>
      cases right with
      | nil =>
          simp only [List.flatMap_cons, List.append_assoc] at same
          exact ((escaped_escape printable first).not_quote same).elim
      | cons second right =>
          simp only [List.flatMap_cons, List.append_assoc] at same
          obtain ⟨rfl, sameRest⟩ :=
            (escaped_escape printable first).append_inj (escaped_escape printable second) same
          obtain ⟨rfl, rfl⟩ := ih sameRest
          exact ⟨rfl, rfl⟩

end Text

/-- What a signature shows of an entry. -/
def Entry.shown (entry : Entry) : ValueType × String := (entry.valueType, entry.value)

theorem Entry.toList_renderWith (printable : Char → Bool) (entry : Entry) :
    (entry.renderWith printable).toList =
      entry.valueType.tag.toList ++ ':' :: Text.quoteChars printable entry.value.toList := by
  simp [renderWith, Text.quotedWith]

theorem ValueType.tag_injective {left right : ValueType}
    (same : left.tag.toList = right.tag.toList) : left = right := by
  cases left <;> cases right <;> first | rfl | exact absurd same (by decide)

theorem Entry.renderWith_append_inj {printable : Char → Bool} {left right : Entry}
    {leftRest rightRest : List Char}
    (same : (left.renderWith printable).toList ++ leftRest =
      (right.renderWith printable).toList ++ rightRest) :
    left.shown = right.shown ∧ leftRest = rightRest := by
  have noColon : ∀ type : ValueType, ':' ∉ type.tag.toList := by
    intro type
    cases type <;> decide
  simp only [toList_renderWith, List.append_assoc, List.cons_append] at same
  obtain ⟨sameTag, sameQuoted⟩ := Text.append_delimiter_inj (noColon _) (noColon _) same
  obtain ⟨sameValue, sameRest⟩ := Text.quoteChars_append_inj sameQuoted
  exact ⟨Prod.ext (ValueType.tag_injective sameTag) (String.toList_inj.1 sameValue), sameRest⟩

namespace StackState

/-- What the signature of a state shows: the types and values of its entries, bottom to top. -/
def shown (state : StackState) : List (ValueType × String) := state.toList.map Entry.shown

/-- The entries after the first one, each after a comma, and the bracket that closes the
signature. -/
def signatureTail (printable : Char → Bool) (entries : List Entry) : List Char :=
  entries.flatMap (fun entry => ',' :: ' ' :: (entry.renderWith printable).toList) ++ [']']

theorem toList_intercalate_append (printable : Char → Bool) (first : Entry)
    (entries : List Entry) :
    (", ".intercalate ((first :: entries).map (Entry.renderWith printable))).toList ++ [']'] =
      (first.renderWith printable).toList ++ signatureTail printable entries := by
  induction entries generalizing first with
  | nil => simp [signatureTail]
  | cons second entries ih =>
      have rest := ih second
      simp only [List.map_cons, String.intercalate_cons_cons, String.toList_append,
        List.append_assoc] at rest ⊢
      rw [rest]
      simp [signatureTail]

theorem signatureTail_injective {printable : Char → Bool} {left right : List Entry}
    (same : signatureTail printable left = signatureTail printable right) :
    left.map Entry.shown = right.map Entry.shown := by
  induction left generalizing right with
  | nil =>
      cases right with
      | nil => rfl
      | cons second right => simp [signatureTail] at same
  | cons first left ih =>
      cases right with
      | nil => simp [signatureTail] at same
      | cons second right =>
          simp only [signatureTail, List.flatMap_cons, List.cons_append, List.append_assoc,
            List.cons.injEq, true_and] at same
          obtain ⟨sameFirst, sameRest⟩ := Entry.renderWith_append_inj same
          simp only [List.map_cons, sameFirst, ih sameRest]

theorem toList_renderWith_ne (printable : Char → Bool) (entry : Entry) (rest : List Char) :
    (entry.renderWith printable).toList ++ rest ≠ [']'] := by
  rw [Entry.toList_renderWith]
  cases entry.valueType <;> simp [ValueType.tag]

/-- Two states have the same signature exactly when it shows the same of them, whichever characters
can be shown. -/
theorem signatureWith_eq_iff (printable : Char → Bool) (left right : StackState) :
    left.signatureWith printable = right.signatureWith printable ↔ left.shown = right.shown := by
  constructor
  · intro same
    have inner : (", ".intercalate (left.toList.map (Entry.renderWith printable))).toList ++ [']'] =
        (", ".intercalate (right.toList.map (Entry.renderWith printable))).toList ++ [']'] := by
      have chars := congrArg String.toList same
      simp only [signatureWith, String.toList_append, List.append_assoc] at chars
      exact List.append_cancel_left chars
    unfold shown
    cases leftEntries : left.toList with
    | nil =>
        cases rightEntries : right.toList with
        | nil => rfl
        | cons second rightRest =>
            rw [leftEntries, rightEntries, toList_intercalate_append] at inner
            exact absurd inner.symm (toList_renderWith_ne printable second _)
    | cons first leftRest =>
        cases rightEntries : right.toList with
        | nil =>
            rw [leftEntries, rightEntries, toList_intercalate_append] at inner
            exact absurd inner (toList_renderWith_ne printable first _)
        | cons second rightRest =>
            rw [leftEntries, rightEntries, toList_intercalate_append,
              toList_intercalate_append] at inner
            obtain ⟨sameFirst, sameRest⟩ := Entry.renderWith_append_inj inner
            simp only [List.map_cons, sameFirst, signatureTail_injective sameRest]
  · intro same
    have lists : left.toList.map (Entry.renderWith printable) =
        right.toList.map (Entry.renderWith printable) := by
      have mapped := congrArg (List.map fun pair : ValueType × String =>
        pair.1.tag ++ ":" ++ Text.quotedWith printable pair.2) same
      simp only [shown, List.map_map] at mapped
      exact mapped
    rw [signatureWith, signatureWith, lists]

theorem signature_eq_iff {left right : StackState} :
    left.signature = right.signature ↔ left.shown = right.shown :=
  signatureWith_eq_iff Text.isPrintable left right

/-- Says that two states have equally many entries and that these agree in type and value, one by
one from the bottom. -/
def Agrees (left right : StackState) : Prop :=
  left.length = right.length ∧ ∀ (position : Nat) (leftEntry rightEntry : Entry),
    left.toList[position]? = some leftEntry → right.toList[position]? = some rightEntry →
      leftEntry.valueType = rightEntry.valueType ∧ leftEntry.value = rightEntry.value

theorem shown_eq_iff_agrees {left right : StackState} :
    left.shown = right.shown ↔ left.Agrees right := by
  have lengths (state : StackState) : state.length = state.shown.length := by
    simp [StackState.length, OffsetVector.length_eq, shown, toList]
  constructor
  · intro same
    refine ⟨by rw [lengths, lengths, same], ?_⟩
    intro position leftEntry rightEntry leftKnown rightKnown
    have shownAt := congrArg (·[position]?) same
    simp only [shown, List.getElem?_map, leftKnown, rightKnown, Option.map_some,
      Option.some.injEq] at shownAt
    exact ⟨congrArg Prod.fst shownAt, congrArg Prod.snd shownAt⟩
  · rintro ⟨sameLength, sameEntries⟩
    apply List.ext_getElem
    · rw [← lengths, ← lengths, sameLength]
    · intro position leftInside rightInside
      simp only [shown, List.getElem_map, List.length_map] at leftInside rightInside ⊢
      rcases sameEntries position _ _ (List.getElem?_eq_getElem leftInside)
        (List.getElem?_eq_getElem rightInside) with ⟨sameType, sameValue⟩
      exact Prod.ext sameType sameValue

/-- A signature can be read in one way only: two states have the same signature exactly when their
entries agree in type and value, whichever characters can be shown. -/
theorem signature_determines_entries (left right : StackState) :
    (left.signature = right.signature ↔ left.Agrees right) ∧
      ∀ printable, left.signatureWith printable = right.signatureWith printable ↔
        left.Agrees right := by
  constructor
  · rw [signature_eq_iff, shown_eq_iff_agrees]
  · intro printable
    rw [signatureWith_eq_iff, shown_eq_iff_agrees]

end StackState

end StackFlow
