import Coordination.Conformance.Words

/-!
# Comparing 32-byte anchors

An anchor comes in two spellings, and both sellers compare two of them before they sign one.
The data seller compares the texts behind the marks, in lower case; the Python seller compares
the bytes it reads. Neither is the comparison of the words the data seller would sign: the
first takes any 64 characters, the second skips white space, and the encoder alone reads
behind a second mark.
-/

namespace Coordination

namespace Conformance

open JavaScript Python Library

/-- `toLowerCase` on texts of ASCII characters. -/
def LowersAscii [HostLocale] : Prop :=
  ∀ s : String, (∀ c ∈ s.toList, c.toNat < 128) →
    HostLocale.toLowerCase s = String.ofList (s.toList.map Char.toLower)

/-- The text behind the mark of an anchor. -/
def behindMark (s : String) : String :=
  let stripped := DataSeller.stripStart "sha256:" s
  if stripped = s then DataSeller.stripStart "0x" s else stripped

/-- The text the Python seller reads: both marks are taken off. -/
def behindMarks (s : String) : String :=
  removeStart "0x" (removeStart "sha256:" s)

/-- Nothing but hexadecimal digits. -/
def IsHex (s : String) : Prop :=
  ∀ c ∈ s.toList, isHexDigit c = true

/-- The data seller's comparison is the comparison of the words it would sign, and the Python
seller's comparison is the same. -/
def Comparable [HostLocale] (a b : String) : Prop :=
  (DataSeller.bytes32Equal a b = true ↔
    ∃ w, DataSeller.wordBytes32 a = .ok w ∧ DataSeller.wordBytes32 b = .ok w) ∧
  DataSeller.bytes32Equal a b = SellerAgent.bytes32Equal a b

/-! ## Where the comparisons differ -/

/-- 64 characters that are the same up to case and not all digits. -/
def CaseTwins [HostLocale] (a b : String) : Prop :=
  (utf16 (HostLocale.toLowerCase (behindMark a))).length = 64 ∧
    HostLocale.toLowerCase (behindMark a) = HostLocale.toLowerCase (behindMark b) ∧
    ¬ (IsHex (behindMark a) ∧ IsHex (behindMark b))

/-- 64 characters with white space among the digits, of the same bytes. -/
def PaddedTwins (a b : String) : Prop :=
  (behindMarks a).toList.length = 64 ∧ (behindMarks b).toList.length = 64 ∧
    (∃ bs, fromhex (behindMarks a).toList = some bs ∧ fromhex (behindMarks b).toList = some bs) ∧
    ¬ (IsHex (behindMarks a) ∧ IsHex (behindMarks b))

/-- The same 32 bytes, spelled behind two marks at least once. -/
def MarkedTwins (a b : String) : Prop :=
  (∃ bs : Bytes, bs.length = 32 ∧
    ofHex (DataSeller.stripStart "0x" (behindMark a)).toList = some bs ∧
    ofHex (DataSeller.stripStart "0x" (behindMark b)).toList = some bs) ∧
    ¬ (IsHex (behindMark a) ∧ IsHex (behindMark b))

/-! ## The three readings -/

theorem isHex_of_ofHex {s : String} {bs : Bytes} (h : ofHex s.toList = some bs) : IsHex s :=
  (digits_of_ofHex h).2

theorem not_mark_of_isHex {s : String} (h : IsHex s) : "0x".toList.isPrefixOf s.toList = false := by
  refine Bool.eq_false_iff.2 fun hmark => ?_
  have hx := h 'x' ((List.isPrefixOf_iff_prefix.1 hmark).subset (by decide))
  revert hx
  decide

/-- Digits are not behind a second mark. -/
theorem stripStart_of_isHex {s : String} (h : IsHex s) : DataSeller.stripStart "0x" s = s := by
  rw [DataSeller.stripStart, not_mark_of_isHex h]
  rfl

theorem wordBytes32_eq_ok {s : String} {w : Bytes} : DataSeller.wordBytes32 s = .ok w ↔
    w.length = 32 ∧ ofHex (DataSeller.stripStart "0x" (behindMark s)).toList = some w := by
  unfold DataSeller.wordBytes32
  rw [bind_eq_ok]
  constructor
  · rintro ⟨raw, hraw, h⟩
    by_cases hlength : raw.length = 32
    · rw [if_neg (not_not.2 hlength)] at h
      cases h
      exact ⟨hlength, fromHex_eq_ok.1 hraw⟩
    · rw [if_pos hlength] at h
      cases h
  · rintro ⟨hlength, hraw⟩
    refine ⟨w, fromHex_eq_ok.2 hraw, ?_⟩
    rw [if_neg (not_not.2 hlength)]
    rfl

/-- Both are read, to the same bytes. -/
theorem python_eq_true {a b : String} : SellerAgent.bytes32Equal a b = true ↔
    (behindMarks a).toList.length = 64 ∧ (behindMarks b).toList.length = 64 ∧
      ∃ bs, fromhex (behindMarks a).toList = some bs ∧
        fromhex (behindMarks b).toList = some bs := by
  have hread (s : String) (w : Bytes) : SellerAgent.wordBytes32 s = .ok w ↔
      (behindMarks s).toList.length = 64 ∧ fromhex (behindMarks s).toList = some w := by
    rw [← mem_toOption, Option.mem_def, wordBytes32_eq_some]
    rfl
  unfold SellerAgent.bytes32Equal
  constructor
  · intro h
    cases ha : SellerAgent.wordBytes32 a with
    | error e => simp [ha] at h
    | ok x =>
        cases hb : SellerAgent.wordBytes32 b with
        | error e => simp [ha, hb] at h
        | ok y =>
            have hxy : x = y := by simpa [ha, hb] using h
            subst hxy
            exact ⟨((hread a x).1 ha).1, ((hread b x).1 hb).1, x, ((hread a x).1 ha).2,
              ((hread b x).1 hb).2⟩
  · rintro ⟨ha, hb, bs, hbs, hbs'⟩
    rw [(hread a bs).2 ⟨ha, hbs⟩, (hread b bs).2 ⟨hb, hbs'⟩]
    simp

theorem behindMark_eq (s : String) : behindMark s =
    if "sha256:".toList.isPrefixOf s.toList then removeStart "sha256:" s
    else removeStart "0x" s := by
  unfold behindMark
  rw [stripStart_eq]
  simp only
  by_cases hmark : "sha256:".toList.isPrefixOf s.toList = true
  · have hne : removeStart "sha256:" s ≠ s := by
      obtain ⟨rest, hrest⟩ := List.isPrefixOf_iff_prefix.1 hmark
      intro h
      rw [removeStart, if_pos hmark] at h
      have hlength := congrArg (fun s => s.toList.length) h
      simp only [String.toList_ofList, List.length_drop, ← hrest, List.length_append] at hlength
      have htag : "sha256:".toList.length = 7 := by decide
      omega
    rw [if_neg hne, if_pos hmark]
  · have heq : removeStart "sha256:" s = s := by rw [removeStart, if_neg hmark]
    rw [if_pos heq, if_neg hmark]

/-- Where the Python seller reads digits, the encoder reads the same ones. -/
theorem stripStart_behindMark {s : String} (h : IsHex (behindMarks s)) :
    DataSeller.stripStart "0x" (behindMark s) = behindMarks s := by
  rw [behindMark_eq]
  by_cases hmark : "sha256:".toList.isPrefixOf s.toList = true
  · rw [if_pos hmark]
    rfl
  · have heq : removeStart "sha256:" s = s := by rw [removeStart, if_neg hmark]
    rw [behindMarks, heq] at h ⊢
    rw [if_neg hmark, stripStart_of_isHex h]

/-- Digits behind one mark are what the Python seller reads. -/
theorem behindMarks_of_isHex {s : String} (h : IsHex (behindMark s)) :
    behindMarks s = behindMark s := by
  rw [behindMark_eq] at h ⊢
  unfold behindMarks
  by_cases hmark : "sha256:".toList.isPrefixOf s.toList = true
  · rw [if_pos hmark] at h ⊢
    rw [← stripStart_eq]
    exact stripStart_of_isHex h
  · have heq : removeStart "sha256:" s = s := by rw [removeStart, if_neg hmark]
    rw [if_neg hmark, heq]

section Host

variable [HostLocale]

theorem dataSeller_eq_true {a b : String} : DataSeller.bytes32Equal a b = true ↔
    (utf16 (HostLocale.toLowerCase (behindMark a))).length = 64 ∧
      HostLocale.toLowerCase (behindMark a) = HostLocale.toLowerCase (behindMark b) := by
  unfold DataSeller.bytes32Equal behindMark
  simp only [decide_eq_true_eq]

omit [HostLocale] in
theorem ascii_of_isHex {s : String} (h : IsHex s) : ∀ c ∈ s.toList, c.toNat < 128 := by
  intro c hc
  have hbounds := hexDigit_ascii (h c hc)
  omega

/-- The lower case of ASCII characters has as many code units. -/
theorem length_lower (hlower : LowersAscii) {s : String} (h : ∀ c ∈ s.toList, c.toNat < 128) :
    (utf16 (HostLocale.toLowerCase s)).length = s.toList.length := by
  rw [hlower s h, length_utf16, String.toList_ofList, List.length_map]
  intro c hc
  rw [String.toList_ofList] at hc
  obtain ⟨d, hd, rfl⟩ := List.mem_map.1 hc
  have hsmall := h d hd
  unfold Char.toLower
  split_ifs with hupper
  · have hcode : d.val.toNat < 128 := hsmall
    show (d.val + 32).toNat < 65536
    rw [UInt32.toNat_add]
    have h32 : (32 : UInt32).toNat = 32 := rfl
    omega
  · omega

/-- Digits in lower case are those of the bytes. -/
theorem lower_of_ofHex (hlower : LowersAscii) {s : String} {bs : Bytes}
    (h : ofHex s.toList = some bs) : HostLocale.toLowerCase s = toHex bs := by
  rw [hlower s (ascii_of_isHex (isHex_of_ofHex h)), map_toLower_of_ofHex h, String.ofList_toList]

/-- Two texts of 64 digits are the same up to case when they spell the same bytes. -/
theorem dataSeller_of_isHex (hlower : LowersAscii) {a b : String} (ha : IsHex (behindMark a))
    (hb : IsHex (behindMark b)) : DataSeller.bytes32Equal a b = true ↔
      ∃ bs : Bytes, bs.length = 32 ∧ ofHex (behindMark a).toList = some bs ∧
        ofHex (behindMark b).toList = some bs := by
  rw [dataSeller_eq_true, length_lower hlower (ascii_of_isHex ha)]
  constructor
  · rintro ⟨hlength, hsame⟩
    have hlength' : (behindMark b).toList.length = 64 := by
      rw [← length_lower hlower (ascii_of_isHex hb), ← hsame,
        length_lower hlower (ascii_of_isHex ha), hlength]
    obtain ⟨bs, hbs⟩ := exists_ofHex (n := 32) hlength ha
    obtain ⟨bs', hbs'⟩ := exists_ofHex (n := 32) hlength' hb
    rw [lower_of_ofHex hlower hbs, lower_of_ofHex hlower hbs'] at hsame
    cases toHex_injective hsame
    have hdigits := (digits_of_ofHex hbs).1
    exact ⟨bs, by omega, hbs, hbs'⟩
  · rintro ⟨bs, hlength, hbs, hbs'⟩
    have hdigits := (digits_of_ofHex hbs).1
    exact ⟨by omega, by rw [lower_of_ofHex hlower hbs, lower_of_ofHex hlower hbs']⟩

/-! ## The comparison -/

/-- The texts behind one mark are digits: the three readings agree. -/
theorem comparable_of_isHex (hlower : LowersAscii) {a b : String} (ha : IsHex (behindMark a))
    (hb : IsHex (behindMark b)) : Comparable a b := by
  have hdata := dataSeller_of_isHex hlower ha hb
  have hpython := python_eq_true (a := a) (b := b)
  rw [behindMarks_of_isHex ha, behindMarks_of_isHex hb] at hpython
  have hread {s : String} (hs : IsHex s) : fromhex s.toList = ofHex s.toList :=
    fromhex_eq_ofHex fun c hc => Bool.eq_false_iff.2 fun hspace => by
      have hdigit := hs c hc
      rw [not_hexDigit_of_space hspace] at hdigit
      cases hdigit
  constructor
  · rw [hdata]
    refine exists_congr fun w => ?_
    rw [wordBytes32_eq_ok, wordBytes32_eq_ok, stripStart_of_isHex ha, stripStart_of_isHex hb]
    constructor
    · exact fun h => ⟨⟨h.1, h.2.1⟩, h.1, h.2.2⟩
    · exact fun h => ⟨h.1.1, h.1.2, h.2.2⟩
  · rw [Bool.eq_iff_iff, hdata, hpython]
    constructor
    · rintro ⟨bs, hlength, hbs, hbs'⟩
      have hdigits := (digits_of_ofHex hbs).1
      have hdigits' := (digits_of_ofHex hbs').1
      exact ⟨by omega, by omega, bs, fromhex_of_ofHex hbs, fromhex_of_ofHex hbs'⟩
    · rintro ⟨hlength, _, bs, hbs, hbs'⟩
      rw [hread ha] at hbs
      rw [hread hb] at hbs'
      have hdigits := (digits_of_ofHex hbs).1
      exact ⟨bs, by omega, hbs, hbs'⟩

/-- What the data seller would sign and takes for equal has 64 digits behind one mark. -/
theorem isHex_of_signed (hlower : LowersAscii) {s t : String} {w : Bytes}
    (hw : DataSeller.wordBytes32 s = .ok w)
    (hlength : (utf16 (HostLocale.toLowerCase (behindMark t))).length = 64)
    (hsame : HostLocale.toLowerCase (behindMark t) = HostLocale.toLowerCase (behindMark s)) :
    IsHex (behindMark s) := by
  obtain ⟨hbytes, hread⟩ := wordBytes32_eq_ok.1 hw
  by_cases hmark : "0x".toList.isPrefixOf (behindMark s).toList = true
  · have hdigits := digits_of_ofHex hread
    obtain ⟨rest, hrest⟩ := List.isPrefixOf_iff_prefix.1 hmark
    rw [DataSeller.stripStart, if_pos hmark, String.toList_ofList, ← hrest] at hdigits
    rw [List.drop_left' rfl] at hdigits
    have hascii : ∀ c ∈ (behindMark s).toList, c.toNat < 128 := by
      intro c hc
      rw [← hrest, List.mem_append] at hc
      rcases hc with hc | hc
      · have hchars : c = '0' ∨ c = 'x' := by simpa using hc
        rcases hchars with rfl | rfl
        · decide
        · decide
      · have hbounds := hexDigit_ascii (hdigits.2 c hc)
        omega
    have hmarkLength : "0x".toList.length = 2 := by decide
    rw [hsame, length_lower hlower hascii, ← hrest, List.length_append, hmarkLength,
      hdigits.1] at hlength
    omega
  · rw [DataSeller.stripStart, if_neg hmark] at hread
    exact isHex_of_ofHex hread

/-- Two texts compare as the words they encode to, in both sellers, unless they are twins of
one of the three kinds. -/
theorem comparable_iff (hlower : LowersAscii) (a b : String) :
    Comparable a b ↔ ¬ CaseTwins a b ∧ ¬ PaddedTwins a b ∧ ¬ MarkedTwins a b := by
  constructor
  · rintro ⟨hsigned, hpython⟩
    have hhex (hdata : DataSeller.bytes32Equal a b = true) :
        IsHex (behindMark a) ∧ IsHex (behindMark b) := by
      obtain ⟨w, ha, hb⟩ := hsigned.1 hdata
      obtain ⟨hlength, hsame⟩ := dataSeller_eq_true.1 hdata
      exact ⟨isHex_of_signed hlower ha hlength rfl, isHex_of_signed hlower hb hlength hsame⟩
    refine ⟨?_, ?_, ?_⟩
    · rintro ⟨hlength, hsame, hnot⟩
      exact hnot (hhex (dataSeller_eq_true.2 ⟨hlength, hsame⟩))
    · rintro ⟨ha, hb, hread, hnot⟩
      obtain ⟨hexa, hexb⟩ := hhex (by rw [hpython]; exact python_eq_true.2 ⟨ha, hb, hread⟩)
      refine hnot ?_
      rw [behindMarks_of_isHex hexa, behindMarks_of_isHex hexb]
      exact ⟨hexa, hexb⟩
    · rintro ⟨⟨bs, hlength, ha, hb⟩, hnot⟩
      exact hnot (hhex (hsigned.2 ⟨bs, wordBytes32_eq_ok.2 ⟨hlength, ha⟩,
        wordBytes32_eq_ok.2 ⟨hlength, hb⟩⟩))
  · rintro ⟨hcase, hpadded, hmarked⟩
    by_cases hhex : IsHex (behindMark a) ∧ IsHex (behindMark b)
    · exact comparable_of_isHex hlower hhex.1 hhex.2
    -- none of the three holds of texts that are not digits behind one mark
    have hdata : DataSeller.bytes32Equal a b ≠ true := by
      rw [ne_eq, dataSeller_eq_true]
      exact fun h => hcase ⟨h.1, h.2, hhex⟩
    have hsigned : ¬ ∃ w, DataSeller.wordBytes32 a = .ok w ∧ DataSeller.wordBytes32 b = .ok w := by
      rintro ⟨w, ha, hb⟩
      obtain ⟨hlength, hreada⟩ := wordBytes32_eq_ok.1 ha
      exact hmarked ⟨⟨w, hlength, hreada, (wordBytes32_eq_ok.1 hb).2⟩, hhex⟩
    have hpython : SellerAgent.bytes32Equal a b ≠ true := by
      rw [ne_eq, python_eq_true]
      rintro ⟨ha, hb, bs, hbs, hbs'⟩
      by_cases hboth : IsHex (behindMarks a) ∧ IsHex (behindMarks b)
      · have hread {s : String} (hs : IsHex (behindMarks s))
            (hfrom : fromhex (behindMarks s).toList = some bs) :
            ofHex (DataSeller.stripStart "0x" (behindMark s)).toList = some bs := by
          rw [stripStart_behindMark hs, ← hfrom]
          refine (fromhex_eq_ofHex fun c hc => Bool.eq_false_iff.2 fun hspace => ?_).symm
          have hdigit := hs c hc
          rw [not_hexDigit_of_space hspace] at hdigit
          cases hdigit
        have hfirst := hread hboth.1 hbs
        have hdigits := (digits_of_ofHex hfirst).1
        rw [stripStart_behindMark hboth.1] at hdigits
        exact hmarked ⟨⟨bs, by omega, hfirst, hread hboth.2 hbs'⟩, hhex⟩
      · exact hpadded ⟨ha, hb, ⟨bs, hbs, hbs'⟩, hboth⟩
    refine ⟨iff_of_false hdata hsigned, ?_⟩
    rw [Bool.not_eq_true _ |>.mp hdata, Bool.not_eq_true _ |>.mp hpython]

end Host

/-! ## An anchor that is no anchor -/

section Demo

attribute [local instance] HostLocale.ascii

theorem ascii_lowersAscii : LowersAscii := fun _ _ => rfl

/-- An anchor of zeros in its two spellings. -/
theorem comparable_zeros :
    Comparable ("0x" ++ toHex (List.replicate 32 0)) ("sha256:" ++ toHex (List.replicate 32 0)) ↔
      ¬ CaseTwins ("0x" ++ toHex (List.replicate 32 0)) ("sha256:" ++ toHex (List.replicate 32 0)) ∧
      ¬ PaddedTwins ("0x" ++ toHex (List.replicate 32 0))
        ("sha256:" ++ toHex (List.replicate 32 0)) ∧
      ¬ MarkedTwins ("0x" ++ toHex (List.replicate 32 0))
        ("sha256:" ++ toHex (List.replicate 32 0)) :=
  comparable_iff ascii_lowersAscii _ _

/-- 64 letters that spell no bytes are the same anchor. -/
theorem letters_equal :
    ¬ ∀ a b : String, Comparable a b := by
  intro h
  have hsame := (h (String.ofList (List.replicate 64 'g')) (String.ofList (List.replicate 64 'g'))).1
  obtain ⟨w, hw, _⟩ := hsame.1 (by decide +kernel)
  revert hw
  have hnone : (DataSeller.wordBytes32 (String.ofList (List.replicate 64 'g'))).isOk = false := by
    decide +kernel
  intro hw
  rw [hw] at hnone
  cases hnone

end Demo

end Conformance

end Coordination
