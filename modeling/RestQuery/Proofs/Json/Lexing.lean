import Mathlib.Data.List.Chain
import Mathlib.Data.List.TakeWhile
import RestQuery.Json.Token

/-!
# Tokens are read back

The texts of tokens, one behind the other and perhaps with blanks between them, are read as these
tokens, provided that no two words stand side by side.  Numbers are integers of 64 bits here.

Main statement: `Json.Spelled.tokens?_eq`.
-/

namespace RestQuery.Json

/-! ## Numerals -/

namespace Numeral

/-- Only zero has a numeral that starts with a zero. -/
theorem head?_toDigits {n : Nat} (hzero : (Nat.toDigits 10 n).head? = some '0') : n = 0 := by
  induction n using Nat.strongRecOn with
  | _ n ih =>
    by_cases hsmall : n < 10
    · rw [Nat.toDigits_of_lt_base hsmall] at hzero
      exact Nat.digitChar_eq_zero.1 (Option.some.inj hzero)
    · have hlarge : 10 ≤ n := Nat.le_of_not_lt hsmall
      have hless : n / 10 < n := Nat.div_lt_self (by omega) (by omega)
      rw [Nat.toDigits_of_base_le (by decide) hlarge,
        List.head?_append_of_ne_nil _ Nat.toDigits_ne_nil] at hzero
      have hquotient := ih _ hless hzero
      omega

theorem all_isDigit_toDigits (n : Nat) : ∀ c ∈ Nat.toDigits 10 n, c.isDigit = true :=
  fun _ hmem => Nat.isDigit_of_mem_toDigits (by decide) (by decide) hmem

/-- The digits of a number are a numeral without a fraction and without a power. -/
theorem readUnsigned_toDigits (negative : Bool) (n : Nat) :
    readUnsigned negative (Nat.toDigits 10 n) = some ⟨negative, Nat.toDigits 10 n, none, none⟩ := by
  have hdigits := all_isDigit_toDigits n
  have hwhole : (Nat.toDigits 10 n).takeWhile Char.isDigit = Nat.toDigits 10 n := by
    rw [List.takeWhile_eq_self_iff]
    exact hdigits
  have hrest : (Nat.toDigits 10 n).dropWhile Char.isDigit = [] := by
    rw [List.dropWhile_eq_nil_iff]
    exact hdigits
  have hlead : ¬((Nat.toDigits 10 n).isEmpty || 1 < (Nat.toDigits 10 n).length &&
      (Nat.toDigits 10 n).head? == some '0') = true := by
    simp only [Bool.or_eq_true, List.isEmpty_iff, Nat.toDigits_ne_nil, false_or, Bool.and_eq_true,
      decide_eq_true_eq, beq_iff_eq, not_and]
    intro hlong hzero
    rw [head?_toDigits hzero] at hlong
    exact absurd hlong (by decide)
  rw [readUnsigned, hwhole, hrest, if_neg hlead]
  rfl

/-- Digits only make a number larger. -/
theorem le_ofDigitChars (digits : List Char) (start : Nat) :
    start ≤ Nat.ofDigitChars 10 digits start := by
  induction digits generalizing start with
  | nil => exact Nat.le_of_eq Nat.ofDigitChars_nil.symm
  | cons digit rest ih =>
      rw [Nat.ofDigitChars_cons]
      exact Nat.le_trans (by omega) (ih _)

/-- Digits that make a number of 64 bits are all taken in. -/
theorem absorb_eq {digits : List Char} {start : Nat}
    (hbound : Nat.ofDigitChars 10 digits start < UInt64.size) :
    absorb start digits = (Nat.ofDigitChars 10 digits start, []) := by
  induction digits generalizing start with
  | nil => rw [absorb, Nat.ofDigitChars_nil]
  | cons digit rest ih =>
      have hnext : start * 10 + (digit.toNat - '0'.toNat) =
          10 * start + (digit.toNat - '0'.toNat) := by rw [Nat.mul_comm]
      rw [Nat.ofDigitChars_cons] at hbound ⊢
      rw [absorb, hnext, if_pos (Nat.lt_of_le_of_lt (le_ofDigitChars rest _) hbound), ih hbound]

/-- The digits of a number of 64 bits fit, and none is left over. -/
theorem absorb_toDigits {n : Nat} (hbound : n < UInt64.size) :
    absorb 0 (Nat.toDigits 10 n) = (n, []) := by
  have hvalue : Nat.ofDigitChars 10 (Nat.toDigits 10 n) 0 = n :=
    Nat.ofDigitChars_toDigits (by decide) (by decide)
  rw [absorb_eq (by rwa [hvalue]), hvalue]

end Numeral

namespace Number

/-- Whether an integer is one of 64 bits, with a sign or without. -/
def Fits (n : Int) : Prop := Int64.minValue.toInt ≤ n ∧ n < UInt64.size

theorem text_natural (n : Nat) : (integer n).text = Nat.toDigits 10 n := by
  have hsign : ¬(n : Int) < 0 := by omega
  rw [text, if_neg hsign, Int.natAbs_natCast]

theorem text_negative {n : Nat} (hpos : 0 < n) :
    (integer (-n)).text = '-' :: Nat.toDigits 10 n := by
  have hsign : -(n : Int) < 0 := by omega
  rw [text, if_pos hsign, Int.natAbs_neg, Int.natAbs_natCast]

/-- The text of an integer starts with a minus or consists of digits. -/
theorem text_integer (n : Int) :
    ∃ digits, digits ≠ [] ∧ (∀ c ∈ digits, c.isDigit = true) ∧
      ((integer n).text = digits ∨ (integer n).text = '-' :: digits) := by
  refine ⟨Nat.toDigits 10 n.natAbs, Nat.toDigits_ne_nil, Numeral.all_isDigit_toDigits _, ?_⟩
  rw [text]
  split
  · exact .inr rfl
  · exact .inl rfl

/-- A natural number of 64 bits is read back from its text. -/
theorem read_text_natural {n : Nat} (hbound : n < UInt64.size) :
    (Numeral.read (integer n).text).map Numeral.value = some (some (.integer n)) := by
  have hread : Numeral.read (Nat.toDigits 10 n) =
      Numeral.readUnsigned false (Nat.toDigits 10 n) := by
    rw [Numeral.read]
    intro more hminus
    have hdigit := Numeral.all_isDigit_toDigits n '-' (hminus ▸ List.mem_cons_self)
    exact absurd hdigit (by decide)
  rw [text_natural, hread, Numeral.readUnsigned_toDigits]
  simp [Numeral.value, Numeral.absorb_toDigits hbound]

/-- A negative number of 64 bits is read back from its text. -/
theorem read_text_negative {n : Nat} (hpos : 0 < n) (hbound : Int64.minValue.toInt ≤ -(n : Int)) :
    (Numeral.read (integer (-n)).text).map Numeral.value = some (some (.integer (-n))) := by
  have hsize : n < UInt64.size := by
    have hlow : Int64.minValue.toInt = -9223372036854775808 := by decide
    have hhigh : UInt64.size = 18446744073709551616 := rfl
    omega
  have hkept : ¬(n = 0 ∨ -(n : Int) < Int64.minValue.toInt) := by omega
  rw [text_negative hpos, Numeral.read, Numeral.readUnsigned_toDigits]
  simp only [Option.map_some, Numeral.value, Numeral.absorb_toDigits hsize, List.isEmpty_nil,
    if_true, if_neg hkept]

/-- The text of an integer is a numeral for it. -/
theorem read_text {n : Int} (hfits : Fits n) :
    (Numeral.read (integer n).text).map Numeral.value = some (some (.integer n)) := by
  rcases Int.lt_or_le n 0 with hnegative | hnatural
  · obtain ⟨count, rfl⟩ := Int.exists_eq_neg_ofNat (Int.le_of_lt hnegative)
    exact read_text_negative (by omega) hfits.1
  · obtain ⟨count, rfl⟩ := Int.eq_ofNat_of_zero_le hnatural
    exact read_text_natural (Int.ofNat_lt.1 hfits.2)

end Number

/-! ## Words -/

theorem endsWord_of_isDigit {c : Char} (hdigit : c.isDigit = true) :
    Lexer.endsWord c = false := by
  have hother : ∀ {other : Char}, other.isDigit = false → c ≠ other := by
    rintro other hletter rfl
    rw [hletter] at hdigit
    cases hdigit
  simp [Lexer.endsWord, Lexer.isSpace, Lexer.punctuation, hother]

namespace Token

/-- Tokens that need something between them. -/
def isWord : Token → Bool
  | null | bool _ | number _ => true
  | _ => false

/-- Tokens that are read back: strings and numbers denote something, the latter integers of 64
bits. -/
def Written : Token → Prop
  | number n => ∃ k, Number.Fits k ∧ n = some (.integer k)
  | string s => s.isSome
  | _ => True

variable {token : Token}

/-- The text of a word is read as the word. -/
theorem wordToken_chars (hword : token.isWord = true) (hwritten : token.Written) :
    Lexer.wordToken token.chars = some token := by
  cases token with
  | null => rfl
  | bool b => cases b <;> rfl
  | number n =>
      obtain ⟨k, hfits, rfl⟩ := hwritten
      obtain ⟨digits, hsome, hdigits, htext⟩ := Number.text_integer k
      have hnot : ∀ {c : Char} {rest : List Char}, c.isDigit = false → c ≠ '-' →
          (Number.integer k).text ≠ c :: rest := by
        intro c rest hletter hminus heq
        rcases htext with htext | htext
        · have hdigit := hdigits c (htext.symm.trans heq ▸ List.mem_cons_self)
          rw [hletter] at hdigit
          cases hdigit
        · exact hminus (List.cons.inj (heq.symm.trans htext)).1
      obtain ⟨numeral, hread, hvalue⟩ := Option.map_eq_some_iff.1 (Number.read_text hfits)
      rw [chars, Option.map_some, Option.getD_some, Lexer.wordToken, if_neg (hnot rfl (by decide)),
        if_neg (hnot rfl (by decide)), if_neg (hnot rfl (by decide)), hread, Option.map_some,
        hvalue]
  | _ => cases hword

/-- The text of a word is not empty and has no character at which a word ends. -/
theorem chars_of_isWord (hword : token.isWord = true) (hwritten : token.Written) :
    token.chars ≠ [] ∧ ∀ c ∈ token.chars, Lexer.endsWord c = false := by
  cases token with
  | null => exact ⟨nofun, by simp [chars, Lexer.endsWord, Lexer.isSpace, Lexer.punctuation]⟩
  | bool b =>
      cases b <;>
        exact ⟨nofun, by simp [chars, Lexer.endsWord, Lexer.isSpace, Lexer.punctuation]⟩
  | number n =>
      obtain ⟨k, -, rfl⟩ := hwritten
      obtain ⟨digits, hsome, hdigits, htext⟩ := Number.text_integer k
      have hchars : ∀ c ∈ digits, Lexer.endsWord c = false := fun c hmem =>
        endsWord_of_isDigit (hdigits c hmem)
      rw [chars, Option.map_some, Option.getD_some]
      rcases htext with htext | htext
      · exact htext ▸ ⟨hsome, hchars⟩
      · exact htext ▸ ⟨nofun, List.forall_mem_cons.2 ⟨by decide, hchars⟩⟩
  | _ => cases hword

end Token

/-! ## Strings -/

/-- No character is half of a pair of units. -/
theorem decodeUnits_map_toNat (cs : List Char) : decodeUnits (cs.map Char.toNat) = some cs := by
  induction cs with
  | nil => rfl
  | cons c rest ih =>
      have hvalid : c.toNat < 0xD800 ∨ 0xDFFF < c.toNat := c.valid.imp id And.left
      have hhigh : ¬(0xD800 ≤ c.toNat ∧ c.toNat < 0xDC00) := by omega
      have hlow : ¬(0xDC00 ≤ c.toNat ∧ c.toNat < 0xE000) := by omega
      rw [List.map_cons, decodeUnits.eq_def]
      dsimp only
      rw [if_neg hhigh, if_neg hlow, ih, Option.map_some, Char.ofNat_toNat]

namespace Lexer

variable {lexer next : Lexer} {units : List Nat} {tokens done : List Token}

/-- Each character of a string is read back from the way it is written, be it by an escape. -/
theorem foldlM_stringChar (c : Char) :
    (Token.stringChar c).foldlM step ⟨.string units, tokens⟩ =
      some ⟨.string (c.toNat :: units), tokens⟩ := by
  rw [Token.stringChar]
  split
  next hplain => rcases hplain with rfl | rfl <;> rfl
  split
  next hc => rw [hc]; rfl
  split
  next hc => rw [hc]; rfl
  split
  next hc => rw [hc]; rfl
  split
  next hc => rw [hc]; rfl
  split
  next hc => rw [hc]; rfl
  split
  next hcontrol =>
    have hcode : ((Text.lastHex (c.toNat / 16)).val * 16 + (Text.lastHex c.toNat).val) =
        c.toNat := by
      simp only [Text.lastHex]
      omega
    have hzero : Text.hexValue? '0' = some 0 := rfl
    simp [step, hzero, hcode]
  next hquote _ _ _ _ _ hcontrol =>
    rw [not_or] at hquote
    simp [step, hquote, hcontrol]

theorem foldlM_flatMap_stringChar (cs : List Char) :
    (cs.flatMap Token.stringChar).foldlM step ⟨.string units, tokens⟩ =
      some ⟨.string ((cs.map Char.toNat).reverse ++ units), tokens⟩ := by
  induction cs generalizing units with
  | nil => rfl
  | cons c rest ih =>
      rw [List.flatMap_cons, List.foldlM_append, foldlM_stringChar]
      simpa using ih

/-! ## Sequences of tokens -/

/-- What a reader has read: complete tokens, and perhaps one more that is a word so far. -/
inductive Holds : Lexer → List Token → Prop
  | between {done : List Token} : Holds ⟨.between, done.reverse⟩ done
  | word {done : List Token} {word : List Char} {token : Token}
      (hword : wordToken word.reverse = some token) :
      Holds ⟨.word word, done.reverse⟩ (done ++ [token])

/-- At the end of a text the last word is complete. -/
theorem Holds.finish_eq (hholds : lexer.Holds done) : lexer.finish = some done := by
  cases hholds with
  | between => simp [finish]
  | word hword => simp [finish, hword]

/-- A character at which a word ends is read as if nothing were open. -/
theorem Holds.step_eq (hholds : lexer.Holds done) {c : Char} (hend : endsWord c = true) :
    lexer.step c = some (begin done.reverse c) := by
  cases hholds with
  | between => rfl
  | word hword => simp [step, hend, hword]

/-- A token that is no word ends the word before it and is read at once. -/
theorem Holds.foldlM_of_not_word (hholds : lexer.Holds done) {token : Token}
    (hword : token.isWord = false) (hwritten : token.Written) :
    token.chars.foldlM step lexer = some ⟨.between, token :: done.reverse⟩ := by
  cases token with
  | null | bool b | number n => cases hword
  | string s =>
      obtain ⟨s, rfl⟩ := Option.isSome_iff_exists.1 hwritten
      have hopen : begin done.reverse '"' = ⟨.string [], done.reverse⟩ := rfl
      rw [Token.chars, Option.getD_some, List.append_assoc, List.singleton_append,
        List.foldlM_cons, hholds.step_eq rfl, hopen]
      simp [List.foldlM_append, foldlM_flatMap_stringChar, step, decodeUnits_map_toNat]
  | _ =>
      rw [Token.chars, List.foldlM_cons, hholds.step_eq rfl]
      rfl

theorem foldlM_of_word_chars {cs read : List Char} (hcs : ∀ c ∈ cs, endsWord c = false) :
    cs.foldlM step ⟨.word read, tokens⟩ = some ⟨.word (cs.reverse ++ read), tokens⟩ := by
  induction cs generalizing read with
  | nil => rfl
  | cons c rest ih =>
      obtain ⟨hc, hrest⟩ := List.forall_mem_cons.1 hcs
      have hstep : step ⟨.word read, tokens⟩ c = some ⟨.word (c :: read), tokens⟩ := by
        simp [step, hc]
      rw [List.foldlM_cons, hstep]
      simpa using ih hrest

/-- A word is being read until something else follows. -/
theorem foldlM_of_word {token : Token} (hword : token.isWord = true) (hwritten : token.Written) :
    token.chars.foldlM step ⟨.between, tokens⟩ = some ⟨.word token.chars.reverse, tokens⟩ := by
  obtain ⟨hne, hchars⟩ := Token.chars_of_isWord hword hwritten
  obtain ⟨c, rest, hcs⟩ := List.exists_cons_of_ne_nil hne
  rw [hcs] at hchars ⊢
  obtain ⟨hc, hrest⟩ := List.forall_mem_cons.1 hchars
  have hbegin : begin tokens c = ⟨.word [c], tokens⟩ := by
    simp only [endsWord, Bool.or_eq_false_iff, Option.isSome_eq_false_iff,
      Option.isNone_iff_eq_none] at hc
    obtain ⟨⟨hspace, hquote⟩, hpunctuation⟩ := hc
    rw [beq_eq_false_iff_ne] at hquote
    simp [begin, hspace, hquote, hpunctuation]
  rw [List.foldlM_cons]
  change (begin tokens c |> fun lexer => rest.foldlM step lexer) = _
  rw [hbegin]
  simpa using foldlM_of_word_chars hrest

end Lexer

/-- Two tokens can stand side by side. -/
def Token.Apart (first second : Token) : Prop := first.isWord = true → second.isWord = false

/-- After a token a reader has read it, too; it stands between tokens unless the token is a word. -/
theorem Lexer.Holds.exists_next {lexer : Lexer} {done : List Token} {token : Token}
    (hholds : lexer.Holds done) (hwritten : token.Written)
    (hbetween : token.isWord = true → lexer.mode = .between) :
    ∃ next, token.chars.foldlM step lexer = some next ∧ next.Holds (done ++ [token]) ∧
      (token.isWord = false → next.mode = .between) := by
  cases hword : token.isWord with
  | false =>
      refine ⟨_, hholds.foldlM_of_not_word hword hwritten, ?_, fun _ => rfl⟩
      have hheld := @Holds.between (done ++ [token])
      rwa [List.reverse_append] at hheld
  | true =>
      have hmode := hbetween hword
      cases hholds with
      | between =>
          refine ⟨_, foldlM_of_word hword hwritten, .word ?_, nofun⟩
          rw [List.reverse_reverse, Token.wordToken_chars hword hwritten]
      | word => cases hmode

/-- Blanks are read without anything coming of them. -/
theorem Lexer.Holds.exists_blanks {lexer : Lexer} {done : List Token} {blanks : List Char}
    (hholds : lexer.Holds done) (hblanks : ∀ c ∈ blanks, isSpace c = true) :
    ∃ next, blanks.foldlM step lexer = some next ∧ next.Holds done ∧
      (lexer.mode = .between → next.mode = .between) := by
  induction blanks generalizing lexer with
  | nil => exact ⟨lexer, rfl, hholds, id⟩
  | cons c rest ih =>
      obtain ⟨hc, hrest⟩ := List.forall_mem_cons.1 hblanks
      have hbegin : begin done.reverse c = ⟨.between, done.reverse⟩ := by simp [begin, hc]
      obtain ⟨next, hnext, hheld, hmode⟩ := ih .between hrest
      refine ⟨next, ?_, hheld, fun _ => hmode rfl⟩
      rw [List.foldlM_cons, hholds.step_eq (by simp [endsWord, hc]), hbegin]
      exact hnext

/-- Texts that consist of the texts of tokens, one behind the other, with blanks before each and
behind the last. -/
inductive Spelled : List Token → List Char → Prop
  | done {blanks : List Char} (hblanks : ∀ c ∈ blanks, Lexer.isSpace c = true) : Spelled [] blanks
  | token {blanks cs : List Char} {token : Token} {rest : List Token}
      (hblanks : ∀ c ∈ blanks, Lexer.isSpace c = true) (hrest : Spelled rest cs) :
      Spelled (token :: rest) (blanks ++ (token.chars ++ cs))

theorem spelled_chars (tokens : List Token) : Spelled tokens (tokens.flatMap Token.chars) := by
  induction tokens with
  | nil => exact .done nofun
  | cons token rest ih => exact @Spelled.token [] _ _ _ nofun ih

theorem Spelled.blanks_append {tokens : List Token} {blanks cs : List Char}
    (hblanks : ∀ c ∈ blanks, Lexer.isSpace c = true) (hspelled : Spelled tokens cs) :
    Spelled tokens (blanks ++ cs) := by
  cases hspelled with
  | done hrest => exact .done (List.forall_mem_append.2 ⟨hblanks, hrest⟩)
  | token hfirst hrest =>
      rw [← List.append_assoc]
      exact .token (List.forall_mem_append.2 ⟨hblanks, hfirst⟩) hrest

theorem Spelled.append {tokens others : List Token} {cs ds : List Char}
    (hspelled : Spelled tokens cs) (hothers : Spelled others ds) :
    Spelled (tokens ++ others) (cs ++ ds) := by
  induction hspelled with
  | done hblanks => exact hothers.blanks_append hblanks
  | token hblanks _ ih =>
      rw [List.append_assoc, List.append_assoc]
      exact .token hblanks ih

theorem spelled_singleton (token : Token) : Spelled [token] token.chars := by
  simpa using spelled_chars [token]

/-- Tokens that can stand side by side are read one after the other. -/
theorem Lexer.Holds.exists_spelled {lexer : Lexer} {done tokens : List Token} {cs : List Char}
    (hholds : lexer.Holds done) (hspelled : Spelled tokens cs)
    (hapart : tokens.IsChain Token.Apart) (hwritten : ∀ token ∈ tokens, token.Written)
    (hfirst : ∀ token ∈ tokens.head?, token.isWord = true → lexer.mode = .between) :
    ∃ next, cs.foldlM step lexer = some next ∧ next.Holds (done ++ tokens) := by
  induction hspelled generalizing lexer done with
  | done hblanks =>
      obtain ⟨next, hnext, hheld, -⟩ := hholds.exists_blanks hblanks
      exact ⟨next, hnext, by rwa [List.append_nil]⟩
  | @token blanks cs token rest hblanks _ ih =>
      obtain ⟨htoken, hrest⟩ := List.forall_mem_cons.1 hwritten
      obtain ⟨hbeside, hothers⟩ := List.isChain_cons.1 hapart
      obtain ⟨start, hstart, hheld, hstays⟩ := hholds.exists_blanks hblanks
      obtain ⟨next, hnext, hread, hmode⟩ :=
        hheld.exists_next htoken fun hword => hstays (hfirst token rfl hword)
      have hready : ∀ other ∈ rest.head?, other.isWord = true → next.mode = .between := by
        intro other hother hword
        refine hmode (Bool.eq_false_iff.2 fun htoken => ?_)
        rw [hbeside other hother htoken] at hword
        cases hword
      obtain ⟨last, hlast, hall⟩ := ih hread hothers hrest hready
      refine ⟨last, ?_, by rwa [List.append_assoc] at hall⟩
      rw [List.foldlM_append, hstart, Option.bind_eq_bind, Option.bind_some, List.foldlM_append,
        hnext]
      exact hlast

/-- The tokens of a text are read back if no two words touch each other. -/
theorem Spelled.tokens?_eq {tokens : List Token} {cs : List Char} (hspelled : Spelled tokens cs)
    (hapart : tokens.IsChain Token.Apart) (hwritten : ∀ token ∈ tokens, token.Written) :
    tokens? cs = some tokens := by
  have hstart : Lexer.Holds ⟨.between, []⟩ [] := @Lexer.Holds.between []
  obtain ⟨last, hlast, hheld⟩ := hstart.exists_spelled hspelled hapart hwritten fun _ _ _ => rfl
  rw [tokens?, hlast, Option.bind_some, hheld.finish_eq, List.nil_append]

end RestQuery.Json
