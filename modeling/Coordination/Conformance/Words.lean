import Coordination.Conformance.Runner
import Coordination.DataSeller.TypedData
import Coordination.SellerAgent.Amounts

/-!
# ABI words in three implementations

The data seller checks the length of the bytes it has read; the Python seller and the
conformance runner check the text, or nothing. What all three do on one input is compared
here: they never return different words, but the Python words may be short or long.
-/

namespace Coordination

namespace Conformance

open Python Library

/-- What a word helper is called with. -/
inductive AbiInput where
  | address (s : String)
  | bytes32 (s : String)
  | uint (n : ℤ)
  | uintText (s : String)

namespace AbiInput

section Words

variable [Interpreter]

/-- The word of the data seller, of the Python seller and of the runner; `none` for an
exception. An integer reaches the data seller as a `bigint`. -/
def words : AbiInput → List (Option Bytes)
  | address s => [(DataSeller.wordAddress s).toOption, (SellerAgent.wordAddr s).toOption,
      (wAddr s).toOption]
  | bytes32 s => [(DataSeller.wordBytes32 s).toOption, (SellerAgent.wordBytes32 s).toOption,
      (wB32 s).toOption]
  | uint n => [(DataSeller.wordOfInt n).toOption, (SellerAgent.wordInt (.int n)).toOption,
      (wInt (.int n)).toOption]
  | uintText s => [(DataSeller.wordUint (.str s)).toOption,
      (SellerAgent.wordInt (.text s)).toOption, (wInt (.text s)).toOption]

/-- Every word that is returned has 32 bytes, and all that are returned are the same. -/
def Whole (input : AbiInput) : Prop :=
  (∀ w ∈ input.words, ∀ bs ∈ w, bs.length = 32) ∧
    ∀ w ∈ input.words, ∀ w' ∈ input.words, ∀ bs ∈ w, ∀ bs' ∈ w', bs = bs'

end Words

/-- The text whose hexadecimal digits the Python helpers read. -/
def hexText : AbiInput → String
  | address s => removeStart "0x" s
  | bytes32 s => removeStart "0x" (removeStart "sha256:" s)
  | _ => ""

/-- An address text that `bytes.fromhex` takes has 40 digits; a 32-byte text of 64
characters that it takes has no white space. -/
def WellSpelled (input : AbiInput) : Prop :=
  (fromhex input.hexText.toList).isSome →
    match input with
    | address _ => (input.hexText.toList.filter fun c => !isAsciiSpace c).length = 40
    | bytes32 _ => input.hexText.toList.length = 64 →
        ∀ c ∈ input.hexText.toList, isAsciiSpace c = false
    | _ => True

end AbiInput

/-! ## Addresses -/

theorem wordAddr_eq_some {s : String} {w : Bytes} :
    (SellerAgent.wordAddr s).toOption = some w ↔
      ∃ bs, fromhex (removeStart "0x" s).toList = some bs ∧ w = List.replicate 12 0 ++ bs := by
  unfold SellerAgent.wordAddr bytesFromhex
  cases fromhex (removeStart "0x" s).toList with
  | none => simp [Except.toOption]
  | some bs => simp [Except.toOption, eq_comm]

theorem stripStart_eq : DataSeller.stripStart = removeStart := rfl

theorem fromHex_eq_ok {s : String} {bs : Bytes} :
    DataSeller.fromHex s = .ok bs ↔ ofHex (removeStart "0x" s).toList = some bs := by
  unfold DataSeller.fromHex
  rw [stripStart_eq]
  cases ofHex (removeStart "0x" s).toList with
  | none => simp [JavaScript.error]
  | some bs => simp

/-- Where the data seller returns an address word, Python returns the same. -/
theorem wordAddress_agrees {s : String} {w : Bytes} (h : DataSeller.wordAddress s = .ok w) :
    w.length = 32 ∧ (SellerAgent.wordAddr s).toOption = some w := by
  obtain ⟨raw, hraw, rfl⟩ := DataSeller.fromHex_of_wordAddress h
  refine ⟨by simp [raw.2], wordAddr_eq_some.2 ⟨raw.1, ?_, rfl⟩⟩
  exact fromhex_of_ofHex (fromHex_eq_ok.1 hraw)

/-- With two implementations that return the same word where both return one, and a first
whose words are whole, what is left is the length of the second's. -/
theorem whole_iff {a b : Option Bytes} (ha : ∀ w ∈ a, w.length = 32)
    (hab : ∀ w ∈ a, ∀ w' ∈ b, w = w') :
    ((∀ w ∈ [a, b, b], ∀ bs ∈ w, bs.length = 32) ∧
      ∀ w ∈ [a, b, b], ∀ w' ∈ [a, b, b], ∀ bs ∈ w, ∀ bs' ∈ w', bs = bs') ↔
    ∀ bs ∈ b, bs.length = 32 := by
  constructor
  · exact fun h => h.1 b (by simp)
  · intro hb
    refine ⟨?_, ?_⟩
    · intro w hw bs hbs
      simp only [List.mem_cons, List.not_mem_nil, or_false, or_self] at hw
      rcases hw with rfl | rfl
      · exact ha bs hbs
      · exact hb bs hbs
    · intro w hw w' hw' bs hbs bs' hbs'
      simp only [List.mem_cons, List.not_mem_nil, or_false, or_self] at hw hw'
      rcases hw with rfl | rfl <;> rcases hw' with rfl | rfl
      · exact Option.mem_unique hbs hbs'
      · exact hab bs hbs bs' hbs'
      · exact (hab bs' hbs' bs hbs).symm
      · exact Option.mem_unique hbs hbs'

theorem mem_toOption {ε α : Type} {x : Except ε α} {a : α} : a ∈ x.toOption ↔ x = .ok a := by
  cases x <;> simp [Except.toOption]

theorem whole_address_iff [Interpreter] (s : String) :
    (AbiInput.address s).Whole ↔ (AbiInput.address s).WellSpelled := by
  refine (whole_iff (b := (SellerAgent.wordAddr s).toOption) ?_ ?_).trans ?_
  · exact fun w hw => (wordAddress_agrees (mem_toOption.1 hw)).1
  · intro w hw w' hw'
    exact Option.mem_unique (wordAddress_agrees (mem_toOption.1 hw)).2 hw'
  · unfold AbiInput.WellSpelled AbiInput.hexText
    simp only [Option.mem_def, wordAddr_eq_some]
    constructor
    · intro h hread
      obtain ⟨bs, hbs⟩ := Option.isSome_iff_exists.1 hread
      have hlength := h _ ⟨bs, hbs, rfl⟩
      rw [List.length_append, List.length_replicate] at hlength
      rw [length_of_fromhex hbs]
      omega
    · rintro h w ⟨bs, hbs, rfl⟩
      have hlength := h (Option.isSome_iff_exists.2 ⟨bs, hbs⟩)
      rw [length_of_fromhex hbs] at hlength
      rw [List.length_append, List.length_replicate]
      omega

/-! ## 32-byte values -/

theorem wordBytes32_eq_some {s : String} {w : Bytes} :
    (SellerAgent.wordBytes32 s).toOption = some w ↔
      (removeStart "0x" (removeStart "sha256:" s)).toList.length = 64 ∧
        fromhex (removeStart "0x" (removeStart "sha256:" s)).toList = some w := by
  unfold SellerAgent.wordBytes32 bytesFromhex
  simp only
  split_ifs with hlength
  · simp [valueError, Except.toOption, hlength]
  · cases fromhex (removeStart "0x" (removeStart "sha256:" s)).toList with
    | none => simp [Except.toOption]
    | some bs => simp [Except.toOption, not_not.1 hlength]

/-- A text that starts with a mark is no hexadecimal text. -/
theorem fromhex_marked {s : String} (h : removeStart "0x" s ≠ s) : fromhex s.toList = none := by
  unfold removeStart at h
  split at h
  · rename_i hmark
    obtain ⟨rest, hrest⟩ := List.isPrefixOf_iff_prefix.1 hmark
    rw [← hrest]
    rfl
  · exact absurd rfl h

theorem wordBytes32_agrees {s : String} {w w' : Bytes} (h : DataSeller.wordBytes32 s = .ok w)
    (h' : (SellerAgent.wordBytes32 s).toOption = some w') : w = w' := by
  obtain ⟨raw, hraw, rfl⟩ := DataSeller.bytes32Of_of_wordBytes32 h
  obtain ⟨_, hread⟩ := wordBytes32_eq_some.1 h'
  unfold DataSeller.bytes32Of at hraw
  simp only at hraw
  by_cases hplain : DataSeller.stripStart "sha256:" s = s
  · rw [if_pos hplain] at hraw
    have hstrict := fromhex_of_ofHex (fromHex_eq_ok.1 hraw)
    rw [stripStart_eq] at hstrict hplain
    rw [hplain] at hread
    by_cases hmark : removeStart "0x" (removeStart "0x" s) = removeStart "0x" s
    · rw [hmark] at hstrict
      exact Option.some.inj (hstrict.symm.trans hread)
    · rw [fromhex_marked hmark] at hread
      cases hread
  · rw [if_neg hplain] at hraw
    have hstrict := fromhex_of_ofHex (fromHex_eq_ok.1 hraw)
    rw [stripStart_eq, hread] at hstrict
    exact (Option.some.inj hstrict).symm

/-- The runner's word is the Python seller's; only the message of a refusal differs. -/
theorem wB32_eq (s : String) : (wB32 s).toOption = (SellerAgent.wordBytes32 s).toOption := by
  unfold wB32 SellerAgent.wordBytes32
  simp only
  split_ifs <;> rfl

theorem whole_bytes32_iff [Interpreter] (s : String) :
    (AbiInput.bytes32 s).Whole ↔ (AbiInput.bytes32 s).WellSpelled := by
  unfold AbiInput.Whole
  rw [show (AbiInput.bytes32 s).words = [(DataSeller.wordBytes32 s).toOption,
    (SellerAgent.wordBytes32 s).toOption, (wB32 s).toOption] from rfl, wB32_eq]
  refine (whole_iff (b := (SellerAgent.wordBytes32 s).toOption) ?_ ?_).trans ?_
  · intro w hw
    obtain ⟨raw, _, rfl⟩ := DataSeller.bytes32Of_of_wordBytes32 (mem_toOption.1 hw)
    exact raw.2
  · exact fun w hw w' hw' => wordBytes32_agrees (mem_toOption.1 hw) hw'
  · unfold AbiInput.WellSpelled AbiInput.hexText
    simp only [Option.mem_def, wordBytes32_eq_some]
    generalize (removeStart "0x" (removeStart "sha256:" s)).toList = cs
    have hfilter : (cs.filter fun c => !isAsciiSpace c).length = cs.length ↔
        ∀ c ∈ cs, isAsciiSpace c = false := by
      rw [List.length_filter_eq_length_iff]
      simp
    constructor
    · intro h hread hlength
      obtain ⟨bs, hbs⟩ := Option.isSome_iff_exists.1 hread
      have hshort := h bs ⟨hlength, hbs⟩
      refine hfilter.1 ?_
      rw [length_of_fromhex hbs]
      omega
    · rintro h w ⟨hlength, hw⟩
      have hfull := hfilter.2 (h (Option.isSome_iff_exists.2 ⟨w, hw⟩) hlength)
      rw [length_of_fromhex hw] at hfull
      omega

/-! ## Integers and their texts -/

theorem toBytes32_eq_ok {n : ℤ} {w : Bytes} :
    SellerAgent.toBytes32 n = .ok w ↔ (0 ≤ n ∧ n < 2 ^ 256) ∧ w = bytesBE 32 n.toNat := by
  unfold SellerAgent.toBytes32
  split_ifs with h
  · constructor
    · exact fun hok => ⟨h, (Except.ok.inj hok).symm⟩
    · rintro ⟨_, rfl⟩
      rfl
  · constructor
    · intro hok
      cases hok
    · exact fun hok => absurd hok.1 h

theorem wordOfInt_eq_ok {n : ℤ} {w : Bytes} :
    DataSeller.wordOfInt n = .ok w ↔ (0 ≤ n ∧ n < 2 ^ 256) ∧ w = bytesBE 32 n.toNat := by
  unfold DataSeller.wordOfInt
  split_ifs with hneg hwide
  · simp [JavaScript.error]
    omega
  · simp [JavaScript.error]
    omega
  · simp only [Except.ok.injEq]
    constructor
    · rintro rfl
      exact ⟨⟨by omega, by omega⟩, rfl⟩
    · exact fun h => h.2.symm

/-- The characters a decimal integer is read from: digits and the minus sign. -/
def ink (cs : List Char) : List Char :=
  cs.filter fun c => c.isDigit || c == '-'

/-- The integer its ink spells. -/
def inkValue : List Char → ℤ
  | '-' :: ds => -Nat.ofDigitChars 10 ds 0
  | ds => Nat.ofDigitChars 10 ds 0

theorem ink_append (cs ds : List Char) : ink (cs ++ ds) = ink cs ++ ink ds :=
  List.filter_append _ _

theorem ink_eq_nil {cs : List Char} (h : ∀ c ∈ cs, c.isDigit = false ∧ c ≠ '-') : ink cs = [] := by
  refine List.filter_eq_nil_iff.2 fun c hc => ?_
  simp [h c hc]

theorem ink_digits {cs : List Char} (h : ∀ c ∈ cs, c.isDigit = true) : ink cs = cs :=
  List.filter_eq_self.2 fun c hc => by simp [h c hc]

theorem inkValue_digits {ds : List Char} (h : ∀ c ∈ ds, c.isDigit = true) :
    inkValue ds = Nat.ofDigitChars 10 ds 0 := by
  cases ds with
  | nil => rfl
  | cons d ds =>
      have hd : d ≠ '-' := by
        rintro rfl
        exact absurd (h '-' List.mem_cons_self) (by decide)
      unfold inkValue
      split
      · rename_i heq
        exact absurd (List.cons.inj heq).1 hd
      · rfl

theorem not_ink_of_asciiSpace {c : Char} (hc : isAsciiSpace c = true) :
    c.isDigit = false ∧ c ≠ '-' := by
  have hlow : c.toNat ∈ [9, 10, 11, 12, 13, 32] := of_decide_eq_true hc
  simp only [List.mem_cons, List.not_mem_nil, or_false] at hlow
  constructor
  · refine Bool.eq_false_iff.2 fun hdigit => ?_
    have := digit_bounds hdigit
    omega
  · rintro rfl
    revert hlow
    decide

theorem not_ink_of_space {c : Char} (hc : JavaScript.isSpace c = true) :
    c.isDigit = false ∧ c ≠ '-' := by
  have hlow := of_decide_eq_true hc
  simp only [List.mem_cons, List.not_mem_nil, or_false] at hlow
  constructor
  · refine Bool.eq_false_iff.2 fun hdigit => ?_
    have := digit_bounds hdigit
    omega
  · rintro rfl
    revert hlow
    decide

/-- Digits between underscores keep their ink. -/
theorem digitRun_eq_some : ∀ {cs ds : List Char}, digitRun cs = some ds →
    ink cs = ds ∧ (∀ c ∈ ds, c.isDigit = true) ∧ ∀ c ∈ cs, c.isDigit = true ∨ c = '_'
  | [], _, h => by cases h
  | [c], ds, h => by
      unfold digitRun at h
      split at h
      · rename_i hc
        cases h
        exact ⟨by simp [ink, hc], by simpa using hc, by simp [hc]⟩
      · cases h
  | c :: d :: cs, ds, h => by
      unfold digitRun at h
      split at h
      · rename_i hc
        split at h
        · rename_i hd
          obtain ⟨tail, htail, rfl⟩ := Option.map_eq_some_iff.1 h
          obtain ⟨hink, hdigits, hall⟩ := digitRun_eq_some htail
          subst hd
          refine ⟨?_, ?_, ?_⟩
          · rw [← hink]
            simp [ink, hc]
          · simpa [hc] using hdigits
          · simpa [hc] using hall
        · obtain ⟨tail, htail, rfl⟩ := Option.map_eq_some_iff.1 h
          obtain ⟨hink, hdigits, hall⟩ := digitRun_eq_some htail
          refine ⟨?_, ?_, ?_⟩
          · rw [← hink]
            simp [ink, hc]
          · simpa [hc] using hdigits
          · simpa [hc] using hall
      · cases h

/-- The ink of a stripped text is the ink of the text. -/
theorem ink_stripWith {p : Char → Bool} (hp : ∀ c, p c = true → c.isDigit = false ∧ c ≠ '-')
    (cs : List Char) : ink (stripWith p cs) = ink cs := by
  obtain ⟨front, back, hcs, hfront, hback⟩ := exists_stripWith p cs
  conv_rhs => rw [hcs, ink_append, ink_append, ink_eq_nil fun c hc => hp c (hfront c hc),
    ink_eq_nil fun c hc => hp c (hback c hc), List.nil_append, List.append_nil]

theorem mem_stripWith {p : Char → Bool} {cs : List Char} {c : Char} (hc : c ∈ cs) :
    p c = true ∨ c ∈ stripWith p cs := by
  obtain ⟨front, back, hcs, hfront, hback⟩ := exists_stripWith p cs
  rw [hcs, List.mem_append, List.mem_append] at hc
  rcases hc with (hc | hc) | hc
  · exact Or.inl (hfront c hc)
  · exact Or.inr hc
  · exact Or.inl (hback c hc)

theorem mem_of_mem_stripWith {p : Char → Bool} {cs : List Char} {c : Char}
    (hc : c ∈ stripWith p cs) : c ∈ cs := by
  obtain ⟨front, back, hcs, _⟩ := exists_stripWith p cs
  rw [hcs]
  simp [hc]

/-- The characters of a decimal integer. -/
def DecimalChar (c : Char) : Prop :=
  c.isDigit = true ∨ c = '_' ∨ c = '+' ∨ c = '-'

/-- A sign and the digits behind it. -/
theorem inkValue_signed {sign : Char} (cs : List Char) {ds : List Char} (hink : ink cs = ds)
    (hds : ∀ c ∈ ds, c.isDigit = true) :
    (sign = '-' → inkValue (ink (sign :: cs)) = -Nat.ofDigitChars 10 ds 0) ∧
      (sign = '+' → inkValue (ink (sign :: cs)) = Nat.ofDigitChars 10 ds 0) := by
  constructor
  · rintro rfl
    have hcons : ink ('-' :: cs) = '-' :: ink cs := rfl
    rw [hcons, hink]
    rfl
  · rintro rfl
    have hcons : ink ('+' :: cs) = ink cs := rfl
    rw [hcons, hink, inkValue_digits hds]

/-- What Python's `int` reads is its ink. -/
theorem intOfText_eq_ok [Interpreter] {s : String} {n : ℤ} (h : intOfText s = .ok n) :
    n = inkValue (ink (s.toList.map asciiOf)) ∧
      ∀ c ∈ s.toList.map asciiOf, isAsciiSpace c = true ∨ DecimalChar c := by
  unfold intOfText at h
  rw [← ink_stripWith fun c => not_ink_of_asciiSpace]
  suffices hcore : n = inkValue (ink (stripWith isAsciiSpace (s.toList.map asciiOf))) ∧
      ∀ c ∈ stripWith isAsciiSpace (s.toList.map asciiOf), DecimalChar c from
    ⟨hcore.1, fun c hc => (mem_stripWith hc).imp_right (hcore.2 c)⟩
  generalize stripWith isAsciiSpace (s.toList.map asciiOf) = core at h
  extract_lets natural at h
  have hnatural {cs : List Char} {n : ℤ} (h : natural cs = .ok n) :
      ∃ ds, digitRun cs = some ds ∧ n = Nat.ofDigitChars 10 ds 0 := by
    unfold natural at h
    split at h
    · rename_i ds hds
      split_ifs at h
      exact ⟨ds, hds, (Except.ok.inj h).symm⟩
    · cases h
  split at h
  · rename_i cs
    obtain ⟨m, hm, rfl⟩ := map_eq_ok.1 h
    obtain ⟨ds, hds, rfl⟩ := hnatural hm
    obtain ⟨hink, hdigits, hall⟩ := digitRun_eq_some hds
    refine ⟨((inkValue_signed cs hink hdigits).1 rfl).symm, ?_⟩
    rintro c (_ | ⟨_, hc⟩)
    · exact Or.inr (Or.inr (Or.inr rfl))
    · exact (hall c hc).imp_right Or.inl
  · rename_i cs
    obtain ⟨ds, hds, rfl⟩ := hnatural h
    obtain ⟨hink, hdigits, hall⟩ := digitRun_eq_some hds
    refine ⟨((inkValue_signed cs hink hdigits).2 rfl).symm, ?_⟩
    rintro c (_ | ⟨_, hc⟩)
    · exact Or.inr (Or.inr (Or.inl rfl))
    · exact (hall c hc).imp_right Or.inl
  · obtain ⟨ds, hds, rfl⟩ := hnatural h
    obtain ⟨hink, hdigits, hall⟩ := digitRun_eq_some hds
    exact ⟨by rw [hink, inkValue_digits hdigits], fun c hc => (hall c hc).imp_right Or.inl⟩

/-- The letter that marks another base. -/
def RadixMark (c : Char) : Prop :=
  c ∈ ['x', 'X', 'o', 'O', 'b', 'B']

/-- What `BigInt` reads without the mark of another base is its ink. -/
theorem bigIntOfText_eq_ok {s : String} {n : ℤ} (h : DataSeller.bigIntOfText s = .ok n) :
    (∃ c ∈ s.toList, RadixMark c) ∨ n = inkValue (ink s.toList) ∧
      ∀ c ∈ s.toList, JavaScript.isSpace c = true ∨ DecimalChar c := by
  unfold DataSeller.bigIntOfText at h
  have htrim : (JavaScript.trim s).toList = stripWith JavaScript.isSpace s.toList :=
    String.toList_ofList
  rw [← ink_stripWith fun c => not_ink_of_space]
  rw [htrim] at h
  suffices hcore : (∃ c ∈ stripWith JavaScript.isSpace s.toList, RadixMark c) ∨
      n = inkValue (ink (stripWith JavaScript.isSpace s.toList)) ∧
        ∀ c ∈ stripWith JavaScript.isSpace s.toList, DecimalChar c by
    rcases hcore with ⟨c, hc, hmark⟩ | ⟨hn, hall⟩
    · exact Or.inl ⟨c, mem_of_mem_stripWith hc, hmark⟩
    · exact Or.inr ⟨hn, fun c hc => (mem_stripWith hc).imp_right (hall c)⟩
  generalize stripWith JavaScript.isSpace s.toList = core at h
  have hnatural {ds : List Char} {n : ℤ}
      (h : (if ds ≠ [] ∧ ds.all Char.isDigit then
          (Except.ok (JavaScript.natOfDigits 10 ds : ℤ) : Except JavaScript.Failure ℤ)
        else .error .syntaxError) = .ok n) :
      (∀ c ∈ ds, c.isDigit = true) ∧ n = Nat.ofDigitChars 10 ds 0 := by
    split_ifs at h with hds
    have hdigits := List.all_eq_true.1 hds.2
    refine ⟨hdigits, ?_⟩
    rw [← Except.ok.inj h, JavaScript.natOfDigits, SellerAgent.natOfDigits_eq hdigits]
  simp only at h
  split at h
  · cases h
    exact Or.inr ⟨rfl, by simp⟩
  iterate 6 exact Or.inl ⟨_, List.mem_cons_of_mem _ List.mem_cons_self, by simp [RadixMark]⟩
  · rename_i ds
    obtain ⟨m, hm, rfl⟩ := map_eq_ok.1 h
    obtain ⟨hdigits, rfl⟩ := hnatural hm
    refine Or.inr ⟨((inkValue_signed ds (ink_digits hdigits) hdigits).1 rfl).symm, ?_⟩
    rintro c (_ | ⟨_, hc⟩)
    · exact Or.inr (Or.inr (Or.inr rfl))
    · exact Or.inl (hdigits c hc)
  · rename_i ds
    obtain ⟨hdigits, rfl⟩ := hnatural h
    refine Or.inr ⟨((inkValue_signed ds (ink_digits hdigits) hdigits).2 rfl).symm, ?_⟩
    rintro c (_ | ⟨_, hc⟩)
    · exact Or.inr (Or.inr (Or.inl rfl))
    · exact Or.inl (hdigits c hc)
  · obtain ⟨hdigits, rfl⟩ := hnatural h
    exact Or.inr ⟨by rw [ink_digits hdigits, inkValue_digits hdigits],
      fun c hc => Or.inl (hdigits c hc)⟩

theorem ink_map {f : Char → Char} {cs : List Char}
    (h : ∀ c ∈ cs, f c = c ∨ (c.isDigit = false ∧ c ≠ '-') ∧ (f c).isDigit = false ∧ f c ≠ '-') :
    ink (cs.map f) = ink cs := by
  induction cs with
  | nil => rfl
  | cons c cs ih =>
      have ih := ih fun x hx => h x (List.mem_cons_of_mem _ hx)
      unfold ink at ih ⊢
      rw [List.map_cons]
      rcases h c List.mem_cons_self with hc | ⟨⟨hdigit, hminus⟩, hdigit', hminus'⟩
      · rw [hc, List.filter_cons, List.filter_cons, ih]
      · rw [List.filter_cons_of_neg (by simp [hdigit', hminus']),
          List.filter_cons_of_neg (by simp [hdigit, hminus]), ih]

/-- A character `BigInt` skips or reads keeps its ink. -/
theorem asciiOf_ink [Interpreter] {c : Char} (hc : JavaScript.isSpace c = true ∨ DecimalChar c) :
    asciiOf c = c ∨ (c.isDigit = false ∧ c ≠ '-') ∧ (asciiOf c).isDigit = false ∧
      asciiOf c ≠ '-' := by
  by_cases hascii : c.toNat < 128
  · exact Or.inl (if_pos hascii)
  rcases hc with hspace | hdecimal
  · refine Or.inr ⟨not_ink_of_space hspace, ?_⟩
    have hwide : c.toNat ∈ wideSpaces := by
      have hmem := of_decide_eq_true hspace
      unfold wideSpaces
      simp only [List.mem_cons, List.not_mem_nil, or_false] at hmem ⊢
      omega
    unfold asciiOf
    rw [if_neg hascii, Interpreter.decimal_wideSpace c hwide]
    split <;> decide
  · exfalso
    rcases hdecimal with hdigit | rfl | rfl | rfl
    · have := digit_bounds hdigit
      omega
    all_goals exact hascii (by decide)

/-- A text read by both languages is read as the same integer. -/
theorem int_agrees [Interpreter] {s : String} {m n : ℤ} (hjs : DataSeller.bigIntOfText s = .ok m)
    (hpy : intOfText s = .ok n) : m = n := by
  obtain ⟨hn, hallowed⟩ := intOfText_eq_ok hpy
  rcases bigIntOfText_eq_ok hjs with ⟨c, hc, hmark⟩ | ⟨hm, hchars⟩
  · -- no letter of another base is among the characters `int` takes
    exfalso
    have hascii : asciiOf c = c := by
      refine if_pos ?_
      unfold RadixMark at hmark
      simp only [List.mem_cons, List.not_mem_nil, or_false] at hmark
      rcases hmark with rfl | rfl | rfl | rfl | rfl | rfl <;> decide
    have hread := hallowed c (hascii ▸ List.mem_map_of_mem hc)
    unfold RadixMark at hmark
    unfold DecimalChar at hread
    simp only [List.mem_cons, List.not_mem_nil, or_false] at hmark
    rcases hmark with rfl | rfl | rfl | rfl | rfl | rfl <;> revert hread <;> decide
  · rw [hm, hn, ink_map fun c hc => asciiOf_ink (hchars c hc)]

theorem whole_uint (n : ℤ) [Interpreter] : (AbiInput.uint n).Whole := by
  refine (whole_iff (b := (SellerAgent.wordInt (.int n)).toOption) ?_ ?_).2 ?_
  · intro w hw
    rw [(wordOfInt_eq_ok.1 (mem_toOption.1 hw)).2, length_bytesBE]
  · intro w hw w' hw'
    have hint : SellerAgent.toBytes32 n = .ok w' := mem_toOption.1 hw'
    rw [(wordOfInt_eq_ok.1 (mem_toOption.1 hw)).2, (toBytes32_eq_ok.1 hint).2]
  · intro w hw
    have hint : SellerAgent.toBytes32 n = .ok w := mem_toOption.1 hw
    rw [(toBytes32_eq_ok.1 hint).2, length_bytesBE]

theorem whole_uintText (s : String) [Interpreter] : (AbiInput.uintText s).Whole := by
  refine (whole_iff (b := (SellerAgent.wordInt (.text s)).toOption) ?_ ?_).2 ?_
  · intro w hw
    obtain ⟨n, _, hn⟩ := bind_eq_ok.1 (mem_toOption.1 hw)
    rw [(wordOfInt_eq_ok.1 hn).2, length_bytesBE]
  · intro w hw w' hw'
    obtain ⟨m, hm, hword⟩ := bind_eq_ok.1 (mem_toOption.1 hw)
    obtain ⟨n, hn, hword'⟩ := bind_eq_ok.1 (mem_toOption.1 hw')
    rw [(wordOfInt_eq_ok.1 hword).2, (toBytes32_eq_ok.1 hword').2, int_agrees hm hn]
  · intro w hw
    obtain ⟨n, _, hn⟩ := bind_eq_ok.1 (mem_toOption.1 hw)
    rw [(toBytes32_eq_ok.1 hn).2, length_bytesBE]

/-! ## All inputs -/

/-- The words of an input are whole and the same wherever they are returned, exactly where
the input is well spelled. -/
theorem whole_iff_wellSpelled [Interpreter] (input : AbiInput) :
    input.Whole ↔ input.WellSpelled := by
  cases input with
  | address s => exact whole_address_iff s
  | bytes32 s => exact whole_bytes32_iff s
  | uint n => exact iff_of_true (whole_uint n) fun _ => trivial
  | uintText s => exact iff_of_true (whole_uintText s) fun _ => trivial

section Demo

attribute [local instance] Interpreter.ascii

/-- An address without digits is padded to 12 bytes and returned by the Python helpers. -/
theorem empty_address_not_whole : ¬ ∀ input : AbiInput, input.Whole := by
  intro h
  have hshort := (h (.address "0x")).1 (some (List.replicate 12 0)) (by decide +kernel) _ rfl
  exact absurd hshort (by decide)

end Demo

end Conformance

end Coordination
