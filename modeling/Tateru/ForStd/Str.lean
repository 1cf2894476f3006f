import Tateru.ForStd.Decimal
import Tateru.ForStd.Unicode
import Mathlib.Data.List.DropRight

/-!
# Strings as Rust reads them

`str::trim`, `str::to_lowercase` and `u32::from_str` on lists of characters.

Lower case depends on one thing besides the characters themselves: whether a capital sigma
ends a word, which `CaseContext` leaves open.

## Key results

- `parseU32_of_isNumeral` / `isNumeral_of_parseU32`: `u32::from_str` reads exactly the
  numerals that fit
- `Lowered.of_plain` / `Lowered.eq_of_plain`: digits, `+` and white space are their own lower
  case, and the lower case of nothing else
- `Lowered.suffix`: which strings have a lower case that ends in a memory unit
-/

namespace Str

/-! ## Definitions -/

/-- `str::trim`. -/
def trim (s : List Char) : List Char :=
  (s.dropWhile Char.isUnicodeWhitespace).rdropWhile Char.isUnicodeWhitespace

/-- The `Final_Sigma` condition: whether a capital sigma between these two contexts ends a
    word. -/
class CaseContext where
  finalSigma : List Char → List Char → Bool

/-- The lower case of the character `c` between the contexts `before` and `after`. -/
def lowerAt [CaseContext] (before : List Char) (c : Char) (after : List Char) : List Char :=
  if c = 'Σ' then [if CaseContext.finalSigma before after then 'ς' else 'σ']
  else c.lowercase

/-- `str::to_lowercase`, after the characters `before`. -/
def toLowercaseFrom [CaseContext] (before : List Char) : List Char → List Char
  | [] => []
  | c :: after => lowerAt before c after ++ toLowercaseFrom (before ++ [c]) after

/-- `str::to_lowercase`. -/
def toLowercase [CaseContext] (s : List Char) : List Char :=
  toLowercaseFrom [] s

/-- The digits of a numeral: everything after an optional `+`. -/
def numeralDigits : List Char → List Char
  | '+' :: digits => digits
  | digits => digits

/-- `u32::from_str`: an optional `+`, then digits, of a value below `2 ^ 32`. -/
def parseU32 (s : List Char) : Option UInt32 :=
  let digits := numeralDigits s
  if digits ≠ [] ∧ digits.all Char.isDigit ∧ Nat.ofDigitChars 10 digits 0 < UInt32.size then
    some (UInt32.ofNat (Nat.ofDigitChars 10 digits 0))
  else none

/-! ## Numerals -/

/-- `cs` is an optional `+` followed by at least one digit, and its value is `v`. -/
def IsNumeral (cs : List Char) (v : Nat) : Prop :=
  ∃ ds, (cs = ds ∨ cs = '+' :: ds) ∧ ds ≠ [] ∧ (∀ d ∈ ds, d.isDigit = true) ∧
    v = Nat.ofDigitChars 10 ds 0

theorem eq_numeralDigits_or (cs : List Char) :
    cs = numeralDigits cs ∨ cs = '+' :: numeralDigits cs := by
  unfold numeralDigits
  split
  · exact Or.inr rfl
  · exact Or.inl rfl

theorem numeralDigits_of_isDigit {ds : List Char} (h : ∀ d ∈ ds, d.isDigit = true) :
    numeralDigits ds = ds := by
  unfold numeralDigits
  split
  · exact absurd (h '+' List.mem_cons_self) (by decide)
  · rfl

/-- `u32::from_str` on a numeral. -/
theorem parseU32_of_isNumeral {cs : List Char} {v : Nat} (h : IsNumeral cs v) :
    parseU32 cs = if v < UInt32.size then some (UInt32.ofNat v) else none := by
  obtain ⟨ds, hcs, hne, hdig, rfl⟩ := h
  -- Digits do not start with `+`, so only the optional sign is taken off
  have hds : numeralDigits cs = ds := by
    rcases hcs with rfl | rfl
    · exact numeralDigits_of_isDigit hdig
    · rfl
  have hall : ds.all Char.isDigit = true := List.all_eq_true.mpr hdig
  simp only [parseU32, hds, hne, hall, ne_eq, not_false_eq_true, true_and]

/-- What `u32::from_str` accepts is a numeral of that value. -/
theorem isNumeral_of_parseU32 {cs : List Char} {n : UInt32} (h : parseU32 cs = some n) :
    IsNumeral cs n.toNat := by
  simp only [parseU32] at h
  split at h
  · rename_i hds
    obtain ⟨hne, hall, hlt⟩ := hds
    obtain rfl := Option.some.inj h
    refine ⟨numeralDigits cs, eq_numeralDigits_or cs, hne, List.all_eq_true.mp hall, ?_⟩
    -- The value was checked to fit, so it is not reduced
    exact Nat.mod_eq_of_lt hlt
  · exact nomatch h

/-! ## Characters that lower case leaves alone -/

/-- A digit, a `+` or white space: the characters of a numeral and of what surrounds it. -/
def plain (c : Char) : Bool :=
  c.isDigit || c == '+' || c.isUnicodeWhitespace

theorem IsNumeral.plain {cs : List Char} {v : Nat} (h : IsNumeral cs v) :
    ∀ c ∈ cs, plain c = true := by
  obtain ⟨ds, hcs, -, hdig, -⟩ := h
  have hds : ∀ d ∈ ds, Str.plain d = true := fun d hd => by simp [Str.plain, hdig d hd]
  rcases hcs with rfl | rfl
  · exact hds
  · simp only [List.mem_cons, forall_eq_or_imp]
    exact ⟨by decide, hds⟩

/-- A plain character outside ASCII is white space. -/
theorem toNat_lt_of_plain {c : Char} (hc : plain c = true)
    (hws : c.isUnicodeWhitespace = false) : c.toNat < 0x80 := by
  simp only [plain, hws, Bool.or_false, Bool.or_eq_true, beq_iff_eq] at hc
  rcases hc with hd | rfl
  · have := (Char.isDigit_iff_toNat.mp hd).2
    have h9 : '9'.toNat = 57 := rfl
    omega
  · decide

theorem isUpper_iff {c : Char} : c.isUpper = true ↔ 65 ≤ c.toNat ∧ c.toNat ≤ 90 := by
  change decide (65 ≤ c.toNat ∧ c.toNat ≤ 90) = true ↔ _
  rw [decide_eq_true_eq]

theorem isLower_iff {c : Char} : c.isLower = true ↔ 97 ≤ c.toNat ∧ c.toNat ≤ 122 := by
  change (decide (97 ≤ c.toNat) && decide (c.toNat ≤ 122)) = true ↔ _
  rw [Bool.and_eq_true, decide_eq_true_eq, decide_eq_true_eq]

theorem isAlpha_iff {c : Char} : c.isAlpha = true ↔ c.isUpper = true ∨ c.isLower = true := by
  change (c.isUpper || c.isLower) = true ↔ _
  rw [Bool.or_eq_true]

theorem toLower_of_not_isUpper {c : Char} (h : c.isUpper = false) : c.toLower = c := by
  have hval : ¬ (c.val ≥ 'A'.val ∧ c.val ≤ 'Z'.val) := of_decide_eq_false h
  exact dif_neg hval

theorem toNat_toLower_of_isUpper {c : Char} (h : c.isUpper = true) :
    c.toLower.toNat = c.toNat + 32 := by
  have hbounds := isUpper_iff.mp h
  have hval : c.val ≥ 'A'.val ∧ c.val ≤ 'Z'.val := of_decide_eq_true h
  -- The branch that `Char.toLower` takes, as a code point
  have hlower : c.toLower.val = c.val + 32 := by
    change (dite (c.val ≥ 'A'.val ∧ c.val ≤ 'Z'.val) _ _ : Char).val = _
    rw [dif_pos hval]
    rfl
  change c.toLower.val.toNat = _
  rw [hlower, UInt32.toNat_add]
  change (c.toNat + 32) % _ = _
  omega

/-- Letters lie between `A` and `z`. -/
theorem isAlpha_bounds {c : Char} (hc : c.isAlpha = true) : 65 ≤ c.toNat ∧ c.toNat ≤ 122 := by
  rw [isAlpha_iff, isUpper_iff, isLower_iff] at hc
  omega

/-- No letter is plain. -/
theorem plain_of_isAlpha {c : Char} (hc : c.isAlpha = true) : plain c = false := by
  have hbounds := isAlpha_bounds hc
  rw [← Bool.not_eq_true]
  intro hplain
  simp only [plain, Bool.or_eq_true, beq_iff_eq, Char.isUnicodeWhitespace] at hplain
  -- Digits, `+` and white space lie outside the two ranges of letters
  rcases hplain with (hd | rfl) | hw
  · have h9 : c.toNat ≤ 57 := (Char.isDigit_iff_toNat.mp hd).2
    omega
  · exact absurd hbounds (by decide)
  · simp only [Char.whiteSpace, List.contains_eq_mem, decide_eq_true_eq, List.mem_cons,
      List.not_mem_nil, or_false] at hw
    omega

/-- `Char.toLower` only changes letters, into letters. -/
theorem toLower_cases (c : Char) :
    c.toLower = c ∨ (c.isAlpha = true ∧ c.toLower.isAlpha = true) := by
  cases hup : c.isUpper with
  | false => exact Or.inl (toLower_of_not_isUpper hup)
  | true =>
    have hbounds := isUpper_iff.mp hup
    have hlower := toNat_toLower_of_isUpper hup
    refine Or.inr ⟨isAlpha_iff.mpr (Or.inl hup), isAlpha_iff.mpr (Or.inr ?_)⟩
    rw [isLower_iff, hlower]
    omega

/-- What maps into ASCII by `Char.toLower` is ASCII. -/
theorem toNat_lt_of_toLower {c : Char} (h : c.toLower.toNat < 0x80) : c.toNat < 0x80 := by
  rcases toLower_cases c with heq | ⟨halpha, -⟩
  · rwa [heq] at h
  · have := (isAlpha_bounds halpha).2
    omega

/-- A plain character maps to itself. -/
theorem eq_of_lowersTo_of_plain {c : Char} {l : List Char} (h : Char.LowersTo c l)
    (hc : plain c = true) : l = [c] := by
  cases h with
  | ascii _ =>
    -- A letter is not plain, so `c` is its own lower case
    rcases toLower_cases c with heq | ⟨halpha, -⟩
    · rw [heq]
    · rw [plain_of_isAlpha halpha] at hc
      exact nomatch hc
  | self _ => rfl
  | letter hwide hws _ => have := toNat_lt_of_plain hc hws; omega
  | image hwide hws _ _ => have := toNat_lt_of_plain hc hws; omega

/-- A character whose lower case is plain is that lower case. -/
theorem eq_of_lowersTo_plain {c : Char} {l : List Char} (h : Char.LowersTo c l)
    (hl : ∀ d ∈ l, plain d = true) : l = [c] := by
  cases h with
  | ascii _ =>
    have hlow : plain c.toLower = true := hl _ (List.mem_singleton_self _)
    rcases toLower_cases c with heq | ⟨-, halpha⟩
    · rw [heq]
    · rw [plain_of_isAlpha halpha] at hlow
      exact nomatch hlow
  | self _ => rfl
  | letter _ _ hmem =>
    simp only [List.mem_cons, List.not_mem_nil, or_false] at hmem
    -- The two images with ASCII letters are not plain
    rcases hmem with rfl | rfl
    · exact absurd (hl 'k' (by simp)) (by decide)
    · exact absurd (hl 'i' (by simp)) (by decide)
  | image _ _ hwide hws =>
    have := toNat_lt_of_plain (hl _ (List.mem_singleton_self _)) hws
    omega

/-- The letters that the memory units are made of. -/
def unitLetter (d : Char) : Bool :=
  d == 'g' || d == 'm' || d == 'i' || d == 'b'

/-- Only an ASCII letter maps to something that ends in a letter of a memory unit. -/
theorem toLower_eq_of_lowersTo_getLast {c d : Char} {l : List Char} (h : Char.LowersTo c l)
    (hl : l.getLast? = some d) (hd : unitLetter d = true) : c.toLower = d ∧ l = [d] := by
  have hascii : d.toNat < 0x80 := by
    simp only [unitLetter, Bool.or_eq_true, beq_iff_eq] at hd
    rcases hd with ((rfl | rfl) | rfl) | rfl <;> decide
  cases h with
  | ascii _ =>
    obtain rfl := Option.some.inj hl
    exact ⟨rfl, rfl⟩
  | self hwide =>
    obtain rfl : c = d := Option.some.inj hl
    omega
  | letter _ _ hmem =>
    simp only [List.mem_cons, List.not_mem_nil, or_false] at hmem
    -- They end in `k` and in a combining dot: neither is a letter of a unit
    rcases hmem with rfl | rfl <;> obtain rfl := Option.some.inj hl <;>
      exact absurd hd (by decide)
  | @image e _ _ hwide _ =>
    obtain rfl : e = d := Option.some.inj hl
    omega

/-! ## Lower case of a string -/

/-- `l` is the lower case of `s`, character by character. -/
inductive Lowered : List Char → List Char → Prop where
  | nil : Lowered [] []
  | cons {c : Char} {s p l : List Char} :
      Char.LowersTo c p → Lowered s l → Lowered (c :: s) (p ++ l)

theorem lowersTo_lowerAt [CaseContext] (before : List Char) (c : Char) (after : List Char) :
    Char.LowersTo c (lowerAt before c after) := by
  unfold lowerAt
  split
  · rename_i hc
    subst hc
    split <;> exact .image (by decide) (by decide) (by decide) (by decide)
  · exact Char.lowersTo_lowercase c

theorem lowered_toLowercaseFrom [CaseContext] (before s : List Char) :
    Lowered s (toLowercaseFrom before s) := by
  induction s generalizing before with
  | nil => exact .nil
  | cons c s ih => exact .cons (lowersTo_lowerAt before c s) (ih (before ++ [c]))

/-- `str::to_lowercase` lowers character by character, whatever ends a word. -/
theorem lowered_toLowercase [CaseContext] (s : List Char) : Lowered s (toLowercase s) :=
  lowered_toLowercaseFrom [] s

namespace Lowered

theorem append_inv {s t l : List Char} (h : Lowered (s ++ t) l) :
    ∃ l₁ l₂, l = l₁ ++ l₂ ∧ Lowered s l₁ ∧ Lowered t l₂ := by
  induction s generalizing l with
  | nil => exact ⟨[], l, rfl, .nil, h⟩
  | cons c s ih =>
    cases h with
    | @cons _ _ p l hp hrest =>
      obtain ⟨l₁, l₂, rfl, h₁, h₂⟩ := ih hrest
      exact ⟨p ++ l₁, l₂, by rw [List.append_assoc], .cons hp h₁, h₂⟩

/-- A plain string is its own lower case. -/
theorem eq_of_plain {s l : List Char} (h : Lowered s l) (hs : ∀ c ∈ s, plain c = true) :
    l = s := by
  induction h with
  | nil => rfl
  | @cons c s p l hp _ ih =>
    rw [eq_of_lowersTo_of_plain hp (hs c List.mem_cons_self),
      ih fun d hd => hs d (List.mem_cons_of_mem c hd)]
    rfl

/-- A string whose lower case is plain is that lower case. -/
theorem of_plain {s l : List Char} (h : Lowered s l) (hl : ∀ c ∈ l, plain c = true) :
    l = s := by
  induction h with
  | nil => rfl
  | @cons c s p l hp _ ih =>
    rw [eq_of_lowersTo_plain hp fun d hd => hl d (List.mem_append_left l hd),
      ih fun d hd => hl d (List.mem_append_right p hd)]
    rfl

/-- An ASCII string is lowered letter by letter. -/
theorem eq_map_toLower {s l : List Char} (h : Lowered s l) (hs : ∀ c ∈ s, c.toNat < 0x80) :
    l = s.map Char.toLower := by
  induction h with
  | nil => rfl
  | @cons c s p l hp _ ih =>
    have hc := hs c List.mem_cons_self
    rw [ih fun d hd => hs d (List.mem_cons_of_mem c hd)]
    cases hp with
    | ascii _ => rfl
    | self hwide => omega
    | letter hwide _ _ => omega
    | image hwide _ _ _ => omega

/-- If the lower case ends in a letter of a memory unit, so does the string, in either case. -/
theorem concat_inv {s l : List Char} {d : Char} (h : Lowered s (l ++ [d]))
    (hd : unitLetter d = true) : ∃ s' c, s = s' ++ [c] ∧ c.toLower = d ∧ Lowered s' l := by
  rcases List.eq_nil_or_concat s with rfl | ⟨s', c, rfl⟩
  · generalize hl : l ++ [d] = m at h
    cases h
    simp at hl
  · rw [List.concat_eq_append] at h ⊢
    obtain ⟨l₁, l₂, hl, h₁, h₂⟩ := append_inv h
    cases h₂ with
    | @cons _ _ p _ hp hnil =>
      cases hnil
      -- Nothing follows the last character
      rw [List.append_nil] at hl
      -- The last character of the string lowers to something that ends in `d`
      have hlast : p.getLast? = some d := by
        rcases List.eq_nil_or_concat p with rfl | ⟨p', e, rfl⟩
        · cases hp
          simp_all
        · rw [List.concat_eq_append, ← List.append_assoc] at hl
          obtain ⟨-, he⟩ := List.append_inj' hl rfl
          simp_all
      obtain ⟨hc, rfl⟩ := toLower_eq_of_lowersTo_getLast hp hlast hd
      obtain ⟨rfl, -⟩ := List.append_inj' hl rfl
      exact ⟨s', c, rfl, hc, h₁⟩

/-- If the lower case ends in a memory unit, so does the string, in some letter case. -/
theorem suffix {s l u : List Char} (h : Lowered s (l ++ u))
    (hu : ∀ d ∈ u, unitLetter d = true) :
    ∃ s' u', s = s' ++ u' ∧ u'.map Char.toLower = u ∧ Lowered s' l := by
  -- One letter of the unit at a time, from the end
  induction u using List.reverseRecOn generalizing s with
  | nil => exact ⟨s, [], by simp, rfl, by simpa using h⟩
  | append_singleton u d ih =>
    rw [← List.append_assoc] at h
    obtain ⟨s₁, c, rfl, hc, h₁⟩ := concat_inv h (hu d (by simp))
    obtain ⟨s', u', rfl, hu', h'⟩ := ih h₁ fun e he => hu e (List.mem_append_left _ he)
    exact ⟨s', u' ++ [c], by rw [List.append_assoc], by simp [hu', hc], h'⟩

end Lowered

/-! ## Trimming -/

/-- `s` is white space. -/
def IsSpace (s : List Char) : Prop :=
  ∀ c ∈ s, c.isUnicodeWhitespace = true

/-- Trimming takes white space off both ends. -/
theorem exists_trim (s : List Char) :
    ∃ pre post, s = pre ++ trim s ++ post ∧ IsSpace pre ∧ IsSpace post := by
  refine ⟨s.takeWhile Char.isUnicodeWhitespace,
    (s.dropWhile Char.isUnicodeWhitespace).rtakeWhile Char.isUnicodeWhitespace, ?_,
    fun c hc => List.mem_takeWhile_imp hc, fun c hc => List.mem_rtakeWhile_imp hc⟩
  rw [trim, List.append_assoc, List.rdropWhile_append_rtakeWhile,
    List.takeWhile_append_dropWhile]

/-- A trimmed string does not start with white space. -/
theorem not_whitespace_of_trim_eq_cons {s rest : List Char} {c : Char} (h : trim s = c :: rest) :
    c.isUnicodeWhitespace = false := by
  have hprefix : c :: rest <+: s.dropWhile Char.isUnicodeWhitespace :=
    h ▸ List.rdropWhile_prefix Char.isUnicodeWhitespace _
  obtain ⟨tail, htail⟩ := hprefix
  have hhead := List.head?_dropWhile_not Char.isUnicodeWhitespace s
  rw [← htail] at hhead
  simpa using hhead

/-- Trimming keeps a string that neither starts nor ends with white space, and takes off the
    white space after it. -/
theorem trim_append_space {s ws : List Char} (hws : IsSpace ws) (hne : s ≠ [])
    (hhead : (s.head hne).isUnicodeWhitespace = false)
    (hlast : (s.getLast hne).isUnicodeWhitespace = false) : trim (s ++ ws) = s := by
  have hdrop : (s ++ ws).dropWhile Char.isUnicodeWhitespace = s ++ ws := by
    cases s with
    | nil => exact absurd rfl hne
    | cons c s => simp_all
  -- The white space at the end is taken off one character at a time
  have hrdrop : (s ++ ws).rdropWhile Char.isUnicodeWhitespace
      = s.rdropWhile Char.isUnicodeWhitespace := by
    clear hdrop
    induction ws using List.reverseRecOn with
    | nil => rw [List.append_nil]
    | append_singleton ws c ih =>
      rw [← List.append_assoc, List.rdropWhile_concat_pos _ _ _ (hws c (by simp))]
      exact ih fun d hd => hws d (List.mem_append_left _ hd)
  rw [trim, hdrop, hrdrop, List.rdropWhile_eq_self_iff]
  intro _
  simp [hlast]

/-- A numeral does not contain white space. -/
theorem IsNumeral.not_whitespace {cs : List Char} {v : Nat} (h : IsNumeral cs v) :
    ∀ c ∈ cs, c.isUnicodeWhitespace = false := by
  obtain ⟨ds, hcs, -, hdig, -⟩ := h
  have hds : ∀ d ∈ ds, d.isUnicodeWhitespace = false := by
    intro d hd
    have hb := Char.isDigit_iff_toNat.mp (hdig d hd)
    change 48 ≤ d.toNat ∧ d.toNat ≤ 57 at hb
    rw [Char.isUnicodeWhitespace, List.contains_eq_mem, decide_eq_false_iff_not]
    intro hmem
    simp only [Char.whiteSpace, List.mem_cons, List.not_mem_nil, or_false] at hmem
    omega
  rcases hcs with rfl | rfl
  · exact hds
  · simp only [List.mem_cons, forall_eq_or_imp]
    exact ⟨by decide, hds⟩

theorem IsNumeral.ne_nil {cs : List Char} {v : Nat} (h : IsNumeral cs v) : cs ≠ [] := by
  obtain ⟨ds, rfl | rfl, hne, -⟩ := h
  · exact hne
  · exact List.cons_ne_nil _ _

/-- Trimming a numeral with white space after it leaves the numeral. -/
theorem IsNumeral.trim_append {cs ws : List Char} {v : Nat} (h : IsNumeral cs v)
    (hws : IsSpace ws) : trim (cs ++ ws) = cs := by
  have hne := h.ne_nil
  exact trim_append_space hws hne (h.not_whitespace _ (List.head_mem hne))
    (h.not_whitespace _ (List.getLast_mem hne))

/-- There is nothing to trim from a numeral with a text after it that does not end in white
    space. -/
theorem IsNumeral.trim_append_text {cs text : List Char} {v : Nat} (h : IsNumeral cs v)
    (hne : text ≠ []) (hlast : (text.getLast hne).isUnicodeWhitespace = false) :
    trim (cs ++ text) = cs ++ text := by
  have hcs : cs ≠ [] := h.ne_nil
  have hhead : ((cs ++ text).head (by simp [hcs])).isUnicodeWhitespace = false := by
    rw [List.head_append_of_ne_nil hcs]
    exact h.not_whitespace _ (List.head_mem hcs)
  have hlast' : ((cs ++ text).getLast (by simp [hcs])).isUnicodeWhitespace = false := by
    rwa [List.getLast_append_of_ne_nil _ hne]
  have htrim : trim (cs ++ text ++ []) = cs ++ text :=
    trim_append_space nofun (by simp [hcs]) hhead hlast'
  rwa [List.append_nil] at htrim

/-! ## Decimal digits -/

/-- The decimal digits of a number are a numeral of its value. -/
theorem isNumeral_toString (n : UInt32) : IsNumeral (toString n).toList n.toNat := by
  refine ⟨(toString n).toList, Or.inl rfl, ?_, fun d hd => isDigit_of_mem_repr hd, ?_⟩
  · change (Nat.repr n.toNat).toList ≠ []
    rw [Nat.toList_repr]
    exact Nat.toDigits_ne_nil
  · change n.toNat = Nat.ofDigitChars 10 (Nat.repr n.toNat).toList 0
    rw [Nat.toList_repr, Nat.ofDigitChars_ten_toDigits]

end Str
