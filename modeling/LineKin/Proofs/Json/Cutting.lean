import LineKin.Proofs.Json.Spelling
import Mathlib.Data.List.TakeWhile

/-!
# Cutting what is spelled into tokens

A text is cut into tokens, whatever follows, as long as that is nothing that a number or a word could go on
with (`Cuts`). A number is taken apart into the parts that it is spelled with (`ofChars?_of_spelling`), and
the characters of a string are read as what they stand for, however they are escaped (`run_chars`). As soon
as a half of a character stands alone, the string is cut to its end without being read.
-/

namespace LineKin.Json

/-! ### Cutting into tokens -/

/-- Whether a number or a word could not go on with a text. -/
def IsDelimited (rest : List Char) : Prop :=
  ∀ c ∈ rest.head?, IsGapChar c ∨ c = ',' ∨ c = ':' ∨ c = ']' ∨ c = '}'

/-- A text is cut into tokens, as long as nothing follows that it could go on with. -/
def Cuts (text : List Char) (tokens : List Token) : Prop :=
  ∀ (found : List Token) (rest : List Char), IsDelimited rest →
    Mode.between.run found (text ++ rest) = Mode.between.run (tokens.reverse ++ found) rest

variable {mode mode' : Mode} {c : Char} {tokens : List Token} {text gap rest : List Char}

theorem run_step (h : mode.step c = some (mode', tokens)) (found : List Token) (rest : List Char) :
    mode.run found (c :: rest) = mode'.run (tokens.reverse ++ found) rest := by
  rw [Mode.run, h]

theorem isDelimited_cons (h : IsGapChar c ∨ c = ',' ∨ c = ':' ∨ c = ']' ∨ c = '}') (rest : List Char) :
    IsDelimited (c :: rest) := fun _ hc => Option.mem_some.1 hc ▸ h

theorem IsDelimited.append_gap (h : IsDelimited rest) (hgap : IsGap gap) : IsDelimited (gap ++ rest) := by
  cases gap with
  | nil => exact h
  | cons c gap => exact isDelimited_cons (.inl (hgap c List.mem_cons_self)) _

theorem IsDelimited.isLower_eq_false (h : IsDelimited (c :: rest)) : c.isLower = false := by
  rcases h c rfl with (rfl | rfl | rfl | rfl) | rfl | rfl | rfl | rfl <;> rfl

theorem IsDelimited.isNumberPart_eq_false (h : IsDelimited (c :: rest)) : isNumberPart c = false := by
  rcases h c rfl with (rfl | rfl | rfl | rfl) | rfl | rfl | rfl | rfl <;> rfl

theorem cuts_nil : Cuts [] [] := fun _ _ _ => rfl

theorem cuts_gap (hgap : IsGap gap) (htext : Cuts text tokens) : Cuts (gap ++ text) tokens := by
  induction gap with
  | nil => exact htext
  | cons c gap ih =>
    obtain ⟨hc, hgap⟩ := List.forall_mem_cons.1 hgap
    have hstep : Mode.between.step c = some (.between, []) := by
      rcases hc with rfl | rfl | rfl | rfl <;> rfl
    intro found rest hrest
    rw [List.cons_append, List.cons_append, run_step hstep]
    exact ih hgap found rest hrest

/-- A character that is a token of its own. -/
theorem cuts_cons {token : Token} (hstart : Mode.between.step c = some (.between, [token]))
    (htext : Cuts text tokens) : Cuts (c :: text) (token :: tokens) := by
  intro found rest hrest
  rw [List.cons_append, run_step hstart, htext _ _ hrest, List.reverse_cons,
    List.append_assoc, List.reverse_cons, List.append_assoc]
  rfl

theorem Cuts.append {text' : List Char} {tokens' : List Token} (h : Cuts text tokens)
    (h' : Cuts text' tokens') (hend : ∀ rest, IsDelimited rest → IsDelimited (text' ++ rest)) :
    Cuts (text ++ text') (tokens ++ tokens') := by
  intro found rest hrest
  rw [List.append_assoc, h _ _ (hend rest hrest), h' _ _ hrest, List.reverse_append, List.append_assoc]

/-- Blanks around a text are passed over. -/
theorem Cuts.padded {before after : List Char} (h : Cuts text tokens) (hbefore : IsGap before)
    (hafter : IsGap after) : Cuts (before ++ (text ++ after)) tokens := by
  have hgap : Cuts (after ++ []) [] := cuts_gap hafter cuts_nil
  have htext := h.append hgap fun rest hrest => by
    rw [List.append_nil]
    exact hrest.append_gap hafter
  rw [List.append_nil, List.append_nil] at htext
  exact cuts_gap hbefore htext

/-- A word ends where nothing follows that it could go on with. -/
theorem run_word_of_value {read : List Char} {v : Json} (hvalue : wordValue? read = some v)
    (hrest : IsDelimited rest) (found : List Token) :
    (Mode.word read).run found rest = Mode.between.run (.scalar (some v) :: found) rest := by
  cases rest with
  | nil => simp [Mode.run, Mode.finish, hvalue]
  | cons c rest =>
    simp only [Mode.run, Mode.step, hrest.isLower_eq_false, hvalue]
    cases startToken c with
    | none => rfl
    | some found => simp

theorem run_word {word : List Char} (hlower : word.all Char.isLower = true) (read : List Char)
    (found : List Token) (rest : List Char) :
    (Mode.word read).run found (word ++ rest) = (Mode.word (word.reverse ++ read)).run found rest := by
  induction word generalizing read with
  | nil => rfl
  | cons c word ih =>
    rw [List.all_cons, Bool.and_eq_true] at hlower
    obtain ⟨hc, hword⟩ := hlower
    have hstep : (Mode.word read).step c = some (.word (c :: read), []) := by
      rw [Mode.step, if_pos hc]
    rw [List.cons_append, run_step hstep, List.reverse_cons, List.append_assoc]
    exact ih hword _

theorem cuts_word {word : List Char} {v : Json} (hstart : Mode.between.step c = some (.word [c], []))
    (hlower : word.all Char.isLower = true) (hvalue : wordValue? (word.reverse ++ [c]) = some v) :
    Cuts (c :: word) [.scalar (some v)] := by
  intro found rest hrest
  rw [List.cons_append, run_step hstart, List.reverse_nil, List.nil_append,
    run_word hlower, run_word_of_value hvalue hrest]
  rfl

/-- A number ends where nothing follows that it could go on with. -/
theorem run_number_of_value {read : List Char} {t : NumberText}
    (hvalue : NumberText.ofChars? read.reverse = some t) (hrest : IsDelimited rest) (found : List Token) :
    (Mode.number read).run found rest = Mode.between.run (.scalar t.value? :: found) rest := by
  cases rest with
  | nil => simp [Mode.run, Mode.finish, hvalue]
  | cons c rest =>
    simp only [Mode.run, Mode.step, hrest.isNumberPart_eq_false, hvalue]
    cases startToken c with
    | none => rfl
    | some found => simp

theorem run_number (hparts : ∀ c ∈ text, isNumberPart c = true) (read : List Char) (found : List Token)
    (rest : List Char) :
    (Mode.number read).run found (text ++ rest) = (Mode.number (text.reverse ++ read)).run found rest := by
  induction text generalizing read with
  | nil => rfl
  | cons c text ih =>
    obtain ⟨hc, htext⟩ := List.forall_mem_cons.1 hparts
    have hstep : (Mode.number read).step c = some (.number (c :: read), []) := by
      rw [Mode.step, if_pos hc]
    rw [List.cons_append, run_step hstep, List.reverse_cons, List.append_assoc]
    exact ih htext _

theorem step_of_isDigit (h : c.isDigit = true) : Mode.between.step c = some (.number [c], []) := by
  obtain ⟨hlow, hhigh⟩ := Char.isDigit_iff_toNat.1 h
  have hne {d : Char} (hd : d.isDigit = false) : (c == d) = false := by
    rw [beq_eq_false_iff_ne]
    rintro rfl
    exact Bool.noConfusion (h.symm.trans hd)
  have hlower : c.isLower = false := by
    refine Bool.eq_false_iff.2 fun hc => ?_
    have hle : 'a'.val ≤ c.val := of_decide_eq_true (Bool.and_eq_true_iff.1 hc).1
    exact absurd (Nat.le_trans (UInt32.le_iff_toNat_le.1 hle) hhigh) (by decide)
  simp [Mode.step, startToken, hne (d := ' ') rfl, hne (d := '\t') rfl, hne (d := '\n') rfl,
    hne (d := '\r') rfl, hne (d := '[') rfl, hne (d := ']') rfl, hne (d := '{') rfl, hne (d := '}') rfl,
    hne (d := ',') rfl, hne (d := ':') rfl, hne (d := '"') rfl, hlower, h]

/-- What follows digits is no digit. -/
def NoDigitFirst (rest : List Char) : Prop := ∀ c ∈ rest.head?, c.isDigit = false

theorem takeWhile_digits {digits : List Char} (hdigits : AreDigits digits) (hrest : NoDigitFirst rest) :
    (digits ++ rest).takeWhile Char.isDigit = digits ∧
      (digits ++ rest).dropWhile Char.isDigit = rest := by
  rw [List.takeWhile_append_of_pos hdigits.2, List.dropWhile_append_of_pos hdigits.2]
  cases rest with
  | nil => simp
  | cons c rest =>
    have hc : c.isDigit = false := hrest c rfl
    simp [hc]

theorem AreDigits.isEmpty_eq_false {digits : List Char} (h : AreDigits digits) : digits.isEmpty = false := by
  simpa using h.1

theorem AreDigits.all_eq_true {digits : List Char} (h : AreDigits digits) :
    digits.all Char.isDigit = true := List.all_eq_true.2 h.2

/-- No sign stands in front of digits. -/
theorem AreDigits.exists_cons {digits : List Char} (h : AreDigits digits) :
    ∃ c rest, digits = c :: rest ∧ c ≠ '-' ∧ c ≠ '+' := by
  obtain ⟨c, rest, rfl⟩ := List.exists_cons_of_ne_nil h.1
  have hc := h.2 c List.mem_cons_self
  refine ⟨c, rest, rfl, ?_, ?_⟩
  · rintro rfl
    cases hc
  · rintro rfl
    cases hc

theorem powerOf?_of_spelling {power : Option (Bool × List Char)} (h : PowerSpelling power text) :
    powerOf? text = some power := by
  have hletter {e : Char} (he : e = 'e' ∨ e = 'E') : (e != 'e' && e != 'E') = false := by
    rcases he with rfl | rfl <;> rfl
  cases h with
  | none => rfl
  | unsigned he hdigits =>
    obtain ⟨c, rest, rfl, hminus, hplus⟩ := hdigits.exists_cons
    simp [powerOf?, hletter he, hdigits.all_eq_true, hminus, hplus]
  | plus he hdigits => simp [powerOf?, hletter he, hdigits.isEmpty_eq_false, hdigits.all_eq_true]
  | minus he hdigits => simp [powerOf?, hletter he, hdigits.isEmpty_eq_false, hdigits.all_eq_true]

theorem PowerSpelling.head?_eq {power : Option (Bool × List Char)} (h : PowerSpelling power text)
    (hc : text.head? = some c) : c = 'e' ∨ c = 'E' := by
  cases h with
  | none => cases hc
  | unsigned he | plus he | minus he => exact Option.some.inj hc ▸ he

/-- A number is taken apart into the parts that it is spelled with. -/
theorem ofChars?_of_spelling {t : NumberText} (h : NumberSpelling t text) :
    NumberText.ofChars? text = some t := by
  obtain @⟨negative, whole, fractionText, powerText, fraction, power, hwhole, hzero, hfraction, hpower⟩ := h
  have hpowerFirst : NoDigitFirst powerText := by
    intro c hc
    rcases hpower.head?_eq hc with rfl | rfl <;> rfl
  have hfirst : NoDigitFirst (fractionText ++ powerText) := by
    cases hfraction with
    | none => exact hpowerFirst
    | some => exact fun c hc => Option.some.inj hc ▸ rfl
  obtain ⟨htake, hdrop⟩ := takeWhile_digits hwhole hfirst
  have hplain : (whole.isEmpty || (whole.head? == some '0' && decide (1 < whole.length))) = false := by
    rw [hwhole.isEmpty_eq_false, Bool.false_or, Bool.and_eq_false_iff]
    by_cases hhead : whole.head? = some '0'
    · exact .inr (by simp [hzero hhead])
    · exact .inl (by simpa using hhead)
  rw [List.append_assoc, List.append_assoc]
  unfold NumberText.ofChars?
  split
  rename_i negative' body hsign
  have hsplit : negative = negative' ∧ whole ++ (fractionText ++ powerText) = body := by
    cases negative with
    | true => exact Prod.mk.inj hsign
    | false =>
      obtain ⟨c, rest, rfl, hminus, -⟩ := hwhole.exists_cons
      simpa [signSpelling, hminus] using hsign
  obtain ⟨rfl, rfl⟩ := hsplit
  simp only [htake, hdrop, hplain]
  cases hfraction with
  | none =>
    cases powerText with
    | nil => cases hpower; rfl
    | cons e rest =>
      have hpoint : e ≠ '.' := by
        rcases hpower.head?_eq rfl with rfl | rfl <;> decide
      simp [hpoint, powerOf?_of_spelling hpower]
  | some hdigits =>
    obtain ⟨htake, hdrop⟩ := takeWhile_digits hdigits hpowerFirst
    simp [htake, hdrop, hdigits.isEmpty_eq_false, powerOf?_of_spelling hpower]

theorem isNumberPart_of_mem_digits {digits : List Char} (h : AreDigits digits) :
    ∀ c ∈ digits, isNumberPart c = true := by
  intro c hc
  simp [isNumberPart, h.2 c hc]

/-- No spelling of a number holds anything that could not stand in one. -/
theorem NumberSpelling.isNumberPart {t : NumberText} (h : NumberSpelling t text) :
    ∀ c ∈ text, isNumberPart c = true := by
  obtain @⟨negative, whole, fractionText, powerText, fraction, power, hwhole, -, hfraction, hpower⟩ := h
  have hletter {e : Char} (he : e = 'e' ∨ e = 'E') : Json.isNumberPart e = true := by
    rcases he with rfl | rfl <;> rfl
  simp only [List.forall_mem_append]
  refine ⟨⟨⟨?_, isNumberPart_of_mem_digits hwhole⟩, ?_⟩, ?_⟩
  · cases negative <;> simp [signSpelling, Json.isNumberPart]
  · cases hfraction with
    | none => simp
    | some hdigits =>
      exact List.forall_mem_cons.2 ⟨rfl, isNumberPart_of_mem_digits hdigits⟩
  · cases hpower with
    | none => simp
    | unsigned he hdigits =>
      exact List.forall_mem_cons.2 ⟨hletter he, isNumberPart_of_mem_digits hdigits⟩
    | plus he hdigits | minus he hdigits =>
      exact List.forall_mem_cons.2 ⟨hletter he,
        List.forall_mem_cons.2 ⟨rfl, isNumberPart_of_mem_digits hdigits⟩⟩

theorem NumberSpelling.step_eq {t : NumberText} (h : NumberSpelling t text) :
    ∃ c rest, text = c :: rest ∧ Mode.between.step c = some (.number [c], []) := by
  obtain @⟨negative, whole, fractionText, powerText, fraction, power, hwhole, -, -, -⟩ := h
  cases negative with
  | true => exact ⟨'-', _, rfl, rfl⟩
  | false =>
    obtain ⟨c, rest, rfl⟩ := List.exists_cons_of_ne_nil hwhole.1
    exact ⟨c, _, rfl, step_of_isDigit (hwhole.2 c List.mem_cons_self)⟩

theorem cuts_number {t : NumberText} (h : NumberSpelling t text) : Cuts text [.scalar t.value?] := by
  obtain ⟨c, more, rfl, hstart⟩ := h.step_eq
  intro found rest hrest
  have hparts := (List.forall_mem_cons.1 h.isNumberPart).2
  have hvalue : NumberText.ofChars? (more.reverse ++ [c]).reverse = some t := by
    rw [← List.reverse_cons, List.reverse_reverse, ofChars?_of_spelling h]
  rw [List.cons_append, run_step hstart, List.reverse_nil, List.nil_append,
    run_number hparts, run_number_of_value hvalue hrest]
  rfl

/-! ### Strings -/

theorem hexDigit?_of_isHexDigit {n : Nat} (h : IsHexDigit c n) : hexDigit? c = some n := by
  obtain ⟨hn, hc⟩ := h
  have hdigits : ∀ n < 16, hexDigit? (Nat.digitChar n) = some n ∧
      hexDigit? (Nat.digitChar n).toUpper = some n := by decide
  rcases hc with rfl | rfl
  · exact (hdigits n hn).1
  · exact (hdigits n hn).2

theorem run_unit {n : Nat} {digits : List Char} (h : UnitSpelling n digits) (read : Option (List Char))
    (high : Option Nat) (found : List Token) (rest : List Char) :
    (Mode.unit read high 4 0).run found (digits ++ rest) = (afterUnit read high n).run found rest := by
  obtain ⟨ha, hb, hc, hd⟩ := h
  simp [Mode.run, Mode.step, hexDigit?_of_isHexDigit ha, hexDigit?_of_isHexDigit hb,
    hexDigit?_of_isHexDigit hc, hexDigit?_of_isHexDigit hd]

/-- A character that one code unit is enough for. -/
theorem afterUnit_of_char (read : Option (List Char)) (c : Char) :
    afterUnit read none c.toNat = .string (read.map (c :: ·)) := by
  -- a character is no half of another one
  have hvalid : c.toNat < 0xD800 ∨ 0xDFFF < c.toNat := c.valid.imp id And.left
  have hhigh : ¬ (0xD800 ≤ c.toNat ∧ c.toNat ≤ 0xDBFF) := by omega
  have hlow : ¬ (0xDC00 ≤ c.toNat ∧ c.toNat ≤ 0xDFFF) := by omega
  simp [afterUnit, hhigh, hlow]

/-- A first half of a character waits for the second one. -/
theorem afterUnit_of_first (read : Option (List Char)) {n : Nat} (hhalf : IsHalf n) (hn : ¬ IsSecondHalf n) :
    afterUnit read none n = .half read n := by
  have hfirst : 0xD800 ≤ n ∧ n ≤ 0xDBFF := by
    rw [IsHalf] at hhalf
    rw [IsSecondHalf] at hn
    omega
  simp [afterUnit, hfirst]

/-- A second half of a character that no first one waits for. -/
theorem afterUnit_of_second (read : Option (List Char)) {n : Nat} (hn : IsSecondHalf n) :
    afterUnit read none n = .string none := by
  have hfirst : ¬ (0xD800 ≤ n ∧ n ≤ 0xDBFF) := by
    rw [IsSecondHalf] at hn
    omega
  rw [IsSecondHalf] at hn
  simp [afterUnit, hfirst, hn]

/-- A code unit that is not the second half that is waited for. -/
theorem afterUnit_of_not_second (read : Option (List Char)) {first n : Nat} (hn : ¬ IsSecondHalf n) :
    afterUnit read (some first) n = .string none := by
  rw [IsSecondHalf] at hn
  simp [afterUnit, hn]

/-- The two halves of a character. -/
theorem halves_of_large (hlarge : 0x10000 ≤ c.toNat) :
    IsHalf (0xD800 + (c.toNat - 0x10000) / 0x400) ∧ ¬ IsSecondHalf (0xD800 + (c.toNat - 0x10000) / 0x400) ∧
      IsSecondHalf (0xDC00 + (c.toNat - 0x10000) % 0x400) := by
  have hsmall : c.toNat < 0x110000 := c.valid.elim (fun h => Nat.lt_trans h (by decide)) And.right
  simp only [IsHalf, IsSecondHalf]
  omega

/-- The second half of a character behind the first one. -/
theorem afterUnit_of_halves (read : Option (List Char)) (hlarge : 0x10000 ≤ c.toNat) :
    afterUnit read (some (0xD800 + (c.toNat - 0x10000) / 0x400)) (0xDC00 + (c.toNat - 0x10000) % 0x400) =
      .string (read.map (c :: ·)) := by
  have hsecond := (halves_of_large hlarge).2.2
  rw [IsSecondHalf] at hsecond
  generalize hm : c.toNat - 0x10000 = m at hsecond ⊢
  have hjoin : 0x10000 + 0x400 * (0xD800 + m / 0x400 - 0xD800) + (0xDC00 + m % 0x400 - 0xDC00) = c.toNat := by
    omega
  simp only [afterUnit, hsecond, hjoin, Char.ofNat_toNat]
  rfl

theorem inEscape_of_mem_shortEscapes {letter : Char} (h : (letter, c) ∈ shortEscapes)
    (read : Option (List Char)) :
    (letter == 'u') = false ∧ inEscape read letter = some (.string (read.map (c :: ·)), []) := by
  simp only [shortEscapes, List.mem_cons, Prod.mk.injEq, List.not_mem_nil, or_false] at h
  rcases h with ⟨rfl, rfl⟩ | ⟨rfl, rfl⟩ | ⟨rfl, rfl⟩ | ⟨rfl, rfl⟩ | ⟨rfl, rfl⟩ | ⟨rfl, rfl⟩ | ⟨rfl, rfl⟩ |
    ⟨rfl, rfl⟩ <;> exact ⟨rfl, rfl⟩

/-- The modes between the characters of a string, with the characters read so far, the latest in front. There
are none as soon as a half of a character has been met that may stand alone. -/
inductive InString : Option (List Char) → Mode → Prop
  | string (read : Option (List Char)) : InString read (.string read)
  | half (read : Option (List Char)) (first : Nat) (hfirst : ¬ IsSecondHalf first) :
    InString none (.half read first)

/-- A half of a character that is waited for stands alone in what follows. -/
def StandsAlone (mode : Mode) (text : List Char) : Prop :=
  ∀ read first, mode = .half read first → ¬ GoesOn first text

variable {read chars : Option (List Char)} {n : Nat} {digits : List Char}

theorem standsAlone_string (read : Option (List Char)) (text : List Char) :
    StandsAlone (.string read) text := nofun

theorem standsAlone_half (read : Option (List Char)) (h : ¬ GoesOn n text) :
    StandsAlone (.half read n) text := by
  rintro _ _ heq
  obtain ⟨-, rfl⟩ := Mode.half.inj heq
  exact h

/-- A code unit between the characters of a string. -/
theorem run_unit_in_string (h : UnitSpelling n digits) (read : Option (List Char)) (found : List Token)
    (rest : List Char) : (Mode.string read).run found ('\\' :: 'u' :: (digits ++ rest)) =
      (afterUnit read none n).run found rest := by
  have hbackslash : (Mode.string read).step '\\' = some (.escape read, []) := rfl
  have hunit : (Mode.escape read).step 'u' = some (.unit read none 4 0, []) := rfl
  rw [run_step hbackslash, run_step hunit]
  exact run_unit h read none found rest

/-- A code unit behind a first half of a character. -/
theorem run_unit_behind_half (h : UnitSpelling n digits) (read : Option (List Char)) (first : Nat)
    (found : List Token) (rest : List Char) :
    (Mode.half read first).run found ('\\' :: 'u' :: (digits ++ rest)) =
      (afterUnit read (some first) n).run found rest := by
  have hbackslash : (Mode.half read first).step '\\' = some (.halfEscape read first, []) := rfl
  have hunit : (Mode.halfEscape read first).step 'u' = some (.unit read (some first) 4 0, []) := rfl
  rw [run_step hbackslash, run_step hunit]
  exact run_unit h read (some first) found rest

/-- A code unit behind a first half of a character that stands alone. -/
theorem run_unit_behind_alone (h : UnitSpelling n digits) {read : Option (List Char)} {first : Nat}
    (hfirst : ¬ IsSecondHalf first)
    (halone : StandsAlone (.half read first) ('\\' :: 'u' :: (digits ++ text))) (found : List Token)
    (rest : List Char) : (Mode.half read first).run found ('\\' :: 'u' :: (digits ++ rest)) =
      (Mode.string none).run found rest := by
  have hsecond : ¬ IsSecondHalf n := fun hn =>
    halone read first rfl ⟨hfirst, n, digits, text, hn, h, rfl⟩
  rw [run_unit_behind_half h, afterUnit_of_not_second read hsecond]

namespace InString

theorem run_plain (h : InString read mode) (hquote : c ≠ '"') (hescape : c ≠ '\\')
    (hcontrol : 0x20 ≤ c.toNat) (found : List Token) (rest : List Char) :
    mode.run found (c :: rest) = (Mode.string (read.map (c :: ·))).run found rest := by
  have hstep : mode.step c = some (.string (read.map (c :: ·)), []) := by
    cases h <;> simp [Mode.step, inString, hquote, hescape, Nat.not_lt.2 hcontrol]
  exact run_step hstep found rest

theorem run_short (h : InString read mode) {letter : Char} (hletter : (letter, c) ∈ shortEscapes)
    (found : List Token) (rest : List Char) : mode.run found ('\\' :: letter :: rest) =
      (Mode.string (read.map (c :: ·))).run found rest := by
  cases h with
  | string =>
    have hbackslash : (Mode.string read).step '\\' = some (.escape read, []) := rfl
    have hstep : (Mode.escape read).step letter = some (.string (read.map (c :: ·)), []) :=
      (inEscape_of_mem_shortEscapes hletter read).2
    rw [run_step hbackslash, run_step hstep]
    rfl
  | half read first =>
    have hbackslash : (Mode.half read first).step '\\' = some (.halfEscape read first, []) := rfl
    obtain ⟨hunit, hletter⟩ := inEscape_of_mem_shortEscapes hletter none
    have hstep : (Mode.halfEscape read first).step letter = some (.string none, []) := by
      rw [Mode.step, hunit]
      exact hletter
    rw [run_step hbackslash, run_step hstep]
    rfl

theorem run_unit (h : InString read mode) (hdigits : UnitSpelling c.toNat digits)
    (halone : StandsAlone mode ('\\' :: 'u' :: (digits ++ text))) (found : List Token) (rest : List Char) :
    mode.run found ('\\' :: 'u' :: (digits ++ rest)) =
      (Mode.string (read.map (c :: ·))).run found rest := by
  cases h with
  | string => rw [run_unit_in_string hdigits, afterUnit_of_char]
  | half read first hfirst => exact run_unit_behind_alone hdigits hfirst halone found rest

theorem run_pair (h : InString read mode) {first second : List Char} (hlarge : 0x10000 ≤ c.toNat)
    (hfirst : UnitSpelling (0xD800 + (c.toNat - 0x10000) / 0x400) first)
    (hsecond : UnitSpelling (0xDC00 + (c.toNat - 0x10000) % 0x400) second) (found : List Token)
    (rest : List Char) :
    mode.run found ('\\' :: 'u' :: (first ++ '\\' :: 'u' :: (second ++ rest))) =
      (Mode.string (read.map (c :: ·))).run found rest := by
  obtain ⟨hhalf, hnot, hhalf'⟩ := halves_of_large hlarge
  cases h with
  | string =>
    rw [run_unit_in_string hfirst, afterUnit_of_first read hhalf hnot, run_unit_behind_half hsecond,
      afterUnit_of_halves read hlarge]
  | half read =>
    rw [run_unit_behind_half hfirst, afterUnit_of_not_second read hnot, run_unit_in_string hsecond,
      afterUnit_of_second none hhalf']
    rfl

theorem run_half (h : InString read mode) (hhalf : IsHalf n) (hdigits : UnitSpelling n digits)
    (halone : StandsAlone mode ('\\' :: 'u' :: (digits ++ text))) (hopen : ¬ GoesOn n text) :
    ∃ mode', InString none mode' ∧ StandsAlone mode' text ∧
      ∀ found rest, mode.run found ('\\' :: 'u' :: (digits ++ rest)) = mode'.run found rest := by
  cases h with
  | string =>
    by_cases hn : IsSecondHalf n
    · refine ⟨_, .string none, standsAlone_string none text, fun found rest => ?_⟩
      rw [run_unit_in_string hdigits, afterUnit_of_second read hn]
    · refine ⟨_, .half read n hn, standsAlone_half read hopen, fun found rest => ?_⟩
      rw [run_unit_in_string hdigits, afterUnit_of_first read hhalf hn]
  | half read first hfirst =>
    exact ⟨_, .string none, standsAlone_string none text,
      run_unit_behind_alone hdigits hfirst halone⟩

/-- The end of a string. -/
theorem run_quote (h : InString read mode) (found : List Token) (rest : List Char) :
    mode.run found ('"' :: rest) =
      Mode.between.run (.text (read.map fun before => String.ofList before.reverse) :: found) rest := by
  have hstep : mode.step '"' =
      some (.between, [.text (read.map fun before => String.ofList before.reverse)]) := by
    cases h <;> rfl
  exact run_step hstep found rest

end InString

/-- A text in a string is read as some characters, or leaves the string without any. -/
def IsReadAs (text : List Char) (chars : Option (List Char)) : Prop :=
  ∀ (read : Option (List Char)) (mode : Mode), InString read mode → StandsAlone mode text →
    ∃ mode', InString (read.bind fun before => chars.map (·.reverse ++ before)) mode' ∧
      ∀ found rest, mode.run found (text ++ rest) = mode'.run found rest

/-- A text that is read as one character goes in front of others. -/
theorem IsReadAs.cons (h : IsReadAs text chars) (front : List Char)
    (hfront : ∀ (read : Option (List Char)) (mode : Mode), InString read mode →
      StandsAlone mode (front ++ text) → ∀ found rest,
        mode.run found (front ++ rest) = (Mode.string (read.map (c :: ·))).run found rest) :
    IsReadAs (front ++ text) (chars.map (c :: ·)) := by
  intro read mode hmode halone
  obtain ⟨mode', hmode', hrun⟩ := h _ _ (.string (read.map (c :: ·))) (standsAlone_string _ text)
  refine ⟨mode', ?_, fun found rest => ?_⟩
  · have hchars : ((read.map (c :: ·)).bind fun before => chars.map (·.reverse ++ before)) =
        read.bind fun before => (chars.map (c :: ·)).map (·.reverse ++ before) := by
      cases read <;> cases chars <;> simp
    rwa [hchars] at hmode'
  · rw [List.append_assoc, hfront read mode hmode halone, hrun]

/-- Characters in a string are read as what they stand for. -/
theorem isReadAs_of_spelling (h : CharsSpelling chars text) : IsReadAs text chars := by
  induction h with
  | nil =>
    intro read mode hmode _
    exact ⟨mode, by cases read <;> exact hmode, fun _ _ => rfl⟩
  | plain hquote hescape hcontrol _ ih =>
    exact ih.cons [_] fun _ _ hmode _ => hmode.run_plain hquote hescape hcontrol
  | short hletter _ ih => exact ih.cons ['\\', _] fun _ _ hmode _ => hmode.run_short hletter
  | unit hdigits _ ih =>
    exact ih.cons ('\\' :: 'u' :: _) fun _ _ hmode halone => hmode.run_unit hdigits halone
  | @pair c chars first second text hlarge hfirst hsecond _ ih =>
    have hpair : IsReadAs (('\\' :: 'u' :: (first ++ '\\' :: 'u' :: second)) ++ text)
        (chars.map (c :: ·)) := ih.cons _ fun _ _ hmode _ found rest => by
      simpa using hmode.run_pair hlarge hfirst hsecond found rest
    simpa using hpair
  | @half n chars digits text hhalf hdigits hopen _ ih =>
    intro read mode hmode halone
    obtain ⟨mode', hmode', halone', hrun⟩ := hmode.run_half hhalf hdigits halone hopen
    obtain ⟨mode'', hmode'', hrun'⟩ := ih none mode' hmode' halone'
    refine ⟨mode'', by simpa using hmode'', fun found rest => ?_⟩
    rw [List.cons_append, List.cons_append, List.append_assoc, hrun, hrun']

theorem cuts_string {s : Option String} (h : StringSpelling s text) : Cuts text [.text s] := by
  obtain @⟨chars, text, htext⟩ := h
  intro found rest _
  have hstart : Mode.between.step '"' = some (.string (some []), []) := rfl
  obtain ⟨mode, hmode, hrun⟩ := isReadAs_of_spelling htext _ _ (.string (some [])) (standsAlone_string _ text)
  have hvalue : ((Option.bind (some []) fun before => chars.map (·.reverse ++ before)).map fun before =>
      String.ofList before.reverse) = chars.map String.ofList := by
    cases chars <;> simp
  rw [List.cons_append, run_step hstart, List.append_assoc, hrun, List.singleton_append, hmode.run_quote,
    hvalue]
  rfl

end LineKin.Json
