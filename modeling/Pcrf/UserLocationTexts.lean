import Pcrf.UserLocationSafety

/-!
What the stored text of a location tells of the value that it was made of: everything but the
third digit of the network code.
-/

namespace Pcrf

open Lib

/-! ### Values of the full length -/

/-- The types whose value has one network, and the codes of one place in it. -/
def EUserLocationType.isPlace : EUserLocationType → Bool
  | cgi | rai | tai | ecgi => true
  | sai | taiEcgi => false

def EUserLocationType.octet : EUserLocationType → UInt8
  | cgi => 0
  | sai => 1
  | rai => 2
  | tai => 128
  | ecgi => 129
  | taiEcgi => 130

theorem EUserLocationType.ofOctet_octet (type : EUserLocationType) :
    ofOctet type.octet = some type := by
  cases type <;> rfl

/-- The member for the text of a type. -/
def EUserLocationType.textOf (location : SUserLocation) : EUserLocationType → OtlValue String
  | cgi => location.coCGI
  | rai => location.coRAI
  | tai => location.coTAI
  | ecgi => location.coECGI
  | sai | taiEcgi => .empty

/-- A value of its full length. The digits of the network are decimal, and a network code of two
digits is filled up. -/
structure LocationValue (type : EUserLocationType) where
  /-- What stands behind the octet of the type. -/
  octets : List UInt8
  isPlace : type.isPlace = true
  full : octets.length = type.size
  decimal : ∀ d ∈ (networkOf octets).digits, d < 10
  filled : (networkOf octets).uiMNC3 < 10 ∨ (networkOf octets).uiMNC3 = 15

namespace LocationValue

variable {type : EUserLocationType} (v : LocationValue type)

def data : List UInt8 := type.octet :: v.octets

def network : SMCCMNC := networkOf v.octets

def octetAt (i : Nat) : Nat := (v.octets.getD i 0).toNat

/-- The LAC, or the TAC. -/
def area : Nat := v.octetAt 3 * 256 + v.octetAt 4

def cell : Nat := v.octetAt 5 * 256 + v.octetAt 6

/-- The E-UTRAN cell identity, of 28 bits. -/
def cellIdentity : Nat :=
  (v.octetAt 3 % 16) * 2 ^ 24 + v.octetAt 4 * 2 ^ 16 + v.octetAt 5 * 2 ^ 8 + v.octetAt 6

/-- The codes of the area and the cell. -/
def codes : List Nat :=
  match type with
  | .cgi => [v.area, v.cell]
  | .rai => [v.area, v.octetAt 5]
  | .tai => [v.area]
  | .ecgi => [v.cellIdentity]
  | .sai | .taiEcgi => []

/-- The value is accepted, and this is the text that is stored. -/
def Stores (text : String) : Prop :=
  ∀ env location bLoaded, env.asprintf = true → ∃ result,
    pcrfParseUserLocation env v.data location bLoaded = some result ∧ result.iRetVal = 0 ∧
    type.textOf result.soUserLocationInfo = .of text

/-- The values denote different networks or places. -/
def Differs (v' : LocationValue type) : Prop := v.network ≠ v'.network ∨ v.codes ≠ v'.codes

/-- The texts of the values are different ones. -/
def StoredApart (v' : LocationValue type) : Prop :=
  ∃ text text', v.Stores text ∧ v'.Stores text' ∧ text ≠ text'

/-! ### The texts -/

def codesText : String :=
  match type with
  | .cgi => toString v.area ++ "-" ++ frontDigits v.cell ++ "-" ++ toString (v.cell % 10)
  | .rai => toString v.area ++ "-" ++ toString (v.octetAt 5)
  | .tai => toString v.area
  | .ecgi => toString (v.cellIdentity / 256) ++ "-" ++ toString (v.cellIdentity % 256)
  | .sai | .taiEcgi => ""

def text : String := formatMCCMNC v.network ++ "-" ++ v.codesText

end LocationValue

/-! ### What the formatting functions make -/

section Format

theorem snprintf_of_lt {text : String} (h : text.length < mcValueSize) :
    snprintf text = (text.length, text) := by
  have fits : text.toList.length ≤ mcValueSize - 1 := by
    rw [String.length_toList]
    exact Nat.le_sub_one_of_lt h
  rw [snprintf, List.take_of_length_le fits, String.ofList_toList]

theorem formatLocation_of_lt {text : String} (pszMCCMNC : String) (hpos : text ≠ "")
    (h : text.length < mcValueSize) :
    formatLocation pszMCCMNC text = .of (pszMCCMNC ++ "-" ++ text) := by
  have positive : 0 < text.length := by
    rw [Nat.pos_iff_ne_zero]
    exact fun hzero => hpos (String.length_eq_zero_iff.mp hzero)
  simp only [formatLocation, snprintf_of_lt h, positive, if_true]

/-- Two numbers and a dash are no long text. -/
theorem length_numbers_lt {m n : Nat} (hm : m < 10 ^ 8) (hn : n < 10 ^ 8) :
    (toString m ++ "-" ++ toString n).length < mcValueSize := by
  have first := length_toString_le (by decide) hm
  have second := length_toString_le (by decide) hn
  simp only [String.length_append, mcValueSize]
  have dash : "-".length = 1 := rfl
  omega

theorem numbers_ne_empty (m n : Nat) : toString m ++ "-" ++ toString n ≠ "" := by
  intro h
  have lists := congrArg String.toList h
  simp [String.toList_append] at lists

theorem formatLocation_numbers (pszMCCMNC : String) {m n : Nat} (hm : m < 10 ^ 8)
    (hn : n < 10 ^ 8) :
    formatLocation pszMCCMNC (toString m ++ "-" ++ toString n) =
      .of (pszMCCMNC ++ "-" ++ (toString m ++ "-" ++ toString n)) :=
  formatLocation_of_lt pszMCCMNC (numbers_ne_empty m n) (length_numbers_lt hm hn)

/-- The last digit of the cell is cut off by a dash. -/
theorem formatCGI_eq (so : SCGI) (pszMCCMNC : String) {m n : Nat}
    (hm : so.uiLAC1 <<< 8 + so.uiLAC2 = m) (hn : so.uiCI1 <<< 8 + so.uiCI2 = n)
    (hm' : m < 10 ^ 8) (hn' : n < 10 ^ 8) :
    formatCGI so pszMCCMNC = .of (pszMCCMNC ++ "-" ++
      (toString m ++ "-" ++ frontDigits n ++ "-" ++ toString (n % 10))) := by
  have hdigit : (toString (n % 10)).toList = [Nat.digitChar (n % 10)] :=
    toList_toString_of_lt (Nat.mod_lt n (by decide))
  have whole : (toString m ++ "-" ++ toString n).toList =
      (toString m ++ "-" ++ frontDigits n).toList ++ [Nat.digitChar (n % 10)] := by
    rw [toString_eq_front n, String.toList_append, String.toList_append, String.toList_append,
      String.toList_append, hdigit]
    simp
  have positive : 0 < (toString m ++ "-" ++ toString n).length := by
    rw [← String.length_toList, whole]
    simp
  have sector : (toString m ++ "-" ++ toString n).toList[
      (toString m ++ "-" ++ toString n).length - 1]?.toList = [Nat.digitChar (n % 10)] := by
    rw [← String.length_toList, whole]
    simp
  have cut : (pszMCCMNC ++ "-" ++ (toString m ++ "-" ++ toString n)).toList.dropLast =
      (pszMCCMNC ++ "-" ++ (toString m ++ "-" ++ frontDigits n)).toList := by
    rw [String.toList_append, whole, ← List.append_assoc, List.dropLast_concat,
      ← String.toList_append]
  simp only [formatCGI, hm, hn, snprintf_of_lt (length_numbers_lt hm' hn'), positive, if_true,
    length_numbers_lt hm' hn', sector, cut, List.length_singleton, Nat.one_pos]
  refine congrArg OtlValue.of (String.toList_inj.mp ?_)
  simp only [String.toList_ofList, String.toList_append, hdigit, List.append_assoc]
  rfl

end Format

namespace LocationValue

section Text

variable {type : EUserLocationType} (v : LocationValue type)

theorem octetAt_lt (i : Nat) : v.octetAt i < 256 := (v.octets.getD i 0).toNat_lt

theorem area_lt : v.area < 65536 := by
  have high := v.octetAt_lt 3
  have low := v.octetAt_lt 4
  unfold area
  omega

theorem cell_lt : v.cell < 65536 := by
  have high := v.octetAt_lt 5
  have low := v.octetAt_lt 6
  unfold cell
  omega

theorem cellIdentity_lt : v.cellIdentity < 2 ^ 28 := by
  have second := v.octetAt_lt 4
  have third := v.octetAt_lt 5
  have last := v.octetAt_lt 6
  unfold cellIdentity
  omega

/-- What the formatting function of the type makes of the octets. -/
theorem textOf_store (location : SUserLocation) :
    type.textOf (type.store (fun i => v.octets.getD i 0) (formatMCCMNC v.network) location) =
      .of v.text := by
  have harea : v.octetAt 3 <<< 8 + v.octetAt 4 = v.area := by
    rw [Nat.shiftLeft_eq]
    rfl
  have octet (i : Nat) : (v.octets.getD i 0).toNat = v.octetAt i := rfl
  have small : ∀ n, n < 65536 → n < 10 ^ 8 := fun n h => by omega
  cases type with
  | cgi =>
    have hcell : v.octetAt 5 <<< 8 + v.octetAt 6 = v.cell := by
      rw [Nat.shiftLeft_eq]
      rfl
    simp only [EUserLocationType.textOf, EUserLocationType.store]
    exact formatCGI_eq _ _ harea hcell (small _ v.area_lt) (small _ v.cell_lt)
  | rai =>
    have routing : v.octetAt 5 < 10 ^ 8 := by
      have := v.octetAt_lt 5
      omega
    simp only [EUserLocationType.textOf, EUserLocationType.store, formatRAI, SRAI.load, octet,
      harea]
    exact formatLocation_numbers _ (small _ v.area_lt) routing
  | tai =>
    have bounded : (toString v.area).length < mcValueSize :=
      Nat.lt_of_le_of_lt (length_toString_le (by decide) (small _ v.area_lt)) (by decide)
    simp only [EUserLocationType.textOf, EUserLocationType.store, formatTAI, STAI.load, octet,
      harea]
    exact formatLocation_of_lt _ (isDecimal_toString v.area).1 bounded
  | ecgi =>
    have hfirst : lowNibble (v.octets.getD 3 0) = v.octetAt 3 % 16 := rfl
    have front : (v.octetAt 3 % 16) <<< 16 + v.octetAt 4 <<< 8 + v.octetAt 5 =
        v.cellIdentity / 256 := by
      have last := v.octetAt_lt 6
      simp only [Nat.shiftLeft_eq, cellIdentity]
      omega
    have last : v.octetAt 6 = v.cellIdentity % 256 := by
      have := v.octetAt_lt 6
      simp only [cellIdentity]
      omega
    have hfront : v.cellIdentity / 256 < 10 ^ 8 := by
      have := v.cellIdentity_lt
      omega
    have hlast : v.cellIdentity % 256 < 10 ^ 8 := by omega
    simp only [EUserLocationType.textOf, EUserLocationType.store, formatECGI, SECGI.load, hfirst,
      octet, front, last]
    exact formatLocation_numbers _ hfront hlast
  | sai | taiEcgi => exact absurd v.isPlace (by decide)

theorem stores_text : v.Stores v.text := by
  intro env location bLoaded hasprintf
  refine ⟨_, pcrfParseUserLocation_exact (EUserLocationType.ofOctet_octet type) v.full,
    env.parsed_iRetVal type _, ?_⟩
  have filled := sameFront_copied v.octets env.stack fun _ => 0
  rw [v.full] at filled
  rw [ParseEnv.parsed_location, if_pos hasprintf, EUserLocationType.store_congr filled]
  simp only [← List.getD_eq_getElem?_getD]
  exact v.textOf_store location

end Text

/-! ### Reading the texts back -/

section Reading

variable {type : EUserLocationType} {v v' : LocationValue type}

theorem codesText_inj : v.codesText = v'.codesText ↔ v.codes = v'.codes := by
  cases type with
  | cgi =>
    have cut (v : LocationValue .cgi) : v.codesText.toList = (toString v.area).toList ++
        '-' :: ((frontDigits v.cell).toList ++ '-' :: (toString (v.cell % 10)).toList) := by
      simp [codesText, String.toList_append]
    rw [← String.toList_inj, cut v, cut v',
      append_cons_inj (dash_notMem_toString _) (dash_notMem_toString _),
      append_cons_inj (dash_notMem_frontDigits _) (dash_notMem_frontDigits _),
      String.toList_inj, String.toList_inj, String.toList_inj, toString_inj, toString_inj,
      frontDigits_eq_iff]
    have whole : v.cell / 10 = v'.cell / 10 ∧ v.cell % 10 = v'.cell % 10 ↔ v.cell = v'.cell := by
      omega
    rw [whole]
    simp [codes]
  | rai =>
    have cut (v : LocationValue .rai) : v.codesText.toList =
        (toString v.area).toList ++ '-' :: (toString (v.octetAt 5)).toList := by
      simp [codesText, String.toList_append]
    rw [← String.toList_inj, cut v, cut v',
      append_cons_inj (dash_notMem_toString _) (dash_notMem_toString _),
      String.toList_inj, String.toList_inj, toString_inj, toString_inj]
    simp [codes]
  | tai =>
    simp only [codesText, codes, toString_inj]
    simp
  | ecgi =>
    have cut (v : LocationValue .ecgi) : v.codesText.toList =
        (toString (v.cellIdentity / 256)).toList ++
          '-' :: (toString (v.cellIdentity % 256)).toList := by
      simp [codesText, String.toList_append]
    rw [← String.toList_inj, cut v, cut v',
      append_cons_inj (dash_notMem_toString _) (dash_notMem_toString _),
      String.toList_inj, String.toList_inj, toString_inj, toString_inj]
    have whole : v.cellIdentity / 256 = v'.cellIdentity / 256 ∧
        v.cellIdentity % 256 = v'.cellIdentity % 256 ↔ v.cellIdentity = v'.cellIdentity := by
      omega
    rw [whole]
    simp [codes]
  | sai | taiEcgi => exact absurd v.isPlace (by decide)

/-- Three digits, a dash and two digits. -/
theorem length_formatMCCMNC (v : LocationValue type) :
    (formatMCCMNC v.network).toList.length = 6 := by
  have digits := v.decimal
  simp only [SMCCMNC.digits, List.forall_mem_cons] at digits
  obtain ⟨h1, h2, h3, h4, h5, -⟩ := digits
  simp only [formatMCCMNC, network, String.toList_append, toList_toString_of_lt, h1, h2, h3, h4,
    h5]
  rfl

theorem text_inj : v.text = v'.text ↔
    v.network.digits = v'.network.digits ∧ v.codes = v'.codes := by
  have cut (v : LocationValue type) :
      v.text.toList = (formatMCCMNC v.network).toList ++ '-' :: v.codesText.toList := by
    simp [text, String.toList_append]
  have network : formatMCCMNC v.network = formatMCCMNC v'.network ↔
      v.network.digits = v'.network.digits :=
    formatMCCMNC_inj.trans (SMCCMNC.writtenAlike_iff_of_decimal v.decimal v'.decimal)
  rw [← network, ← codesText_inj, ← String.toList_inj, cut v, cut v']
  constructor
  · intro h
    obtain ⟨hnetwork, hrest⟩ := List.append_inj h
      (v.length_formatMCCMNC.trans v'.length_formatMCCMNC.symm)
    exact ⟨String.toList_inj.mp hnetwork, String.toList_inj.mp (List.cons.inj hrest).2⟩
  · rintro ⟨hnetwork, hcodes⟩
    rw [hnetwork, hcodes]

theorem storedApart_iff : v.StoredApart v' ↔ v.text ≠ v'.text := by
  have text_unique {v : LocationValue type} {text : String} (h : v.Stores text) :
      text = v.text := by
    obtain ⟨result, hparse, -, htext⟩ := h ⟨fun _ => 0, 0, true⟩ {} none rfl
    obtain ⟨result', hparse', -, htext'⟩ := v.stores_text ⟨fun _ => 0, 0, true⟩ {} none rfl
    obtain rfl := Option.some.inj (hparse.symm.trans hparse')
    exact congrArg OtlValue.v (htext.symm.trans htext')
  constructor
  · rintro ⟨text, text', h, h', hne⟩
    rwa [text_unique h, text_unique h'] at hne
  · intro hne
    exact ⟨_, _, v.stores_text, v'.stores_text, hne⟩

theorem network_eq_iff : v.network = v'.network ↔
    v.network.digits = v'.network.digits ∧ v.network.uiMNC3 = v'.network.uiMNC3 := by
  cases hv : v.network
  cases hv' : v'.network
  simp only [SMCCMNC.mk.injEq, SMCCMNC.digits, List.cons.injEq, and_true]
  tauto

/-- Values of one type are told apart unless they differ in the third digit of the network code
alone. -/
theorem storedApart_of_differs_iff (v v' : LocationValue type) :
    (v.Differs v' → v.StoredApart v') ↔
      (v.network.digits = v'.network.digits ∧ v.codes = v'.codes →
        v.network.uiMNC3 = v'.network.uiMNC3) := by
  rw [storedApart_iff, Ne, text_inj, Differs, Ne, Ne, network_eq_iff]
  tauto

/-- A tracking area of the network 310-410 and one of 310-411. -/
theorem not_storedApart_thirdDigit :
    ¬ ∀ type (v v' : LocationValue type), v.Differs v' → v.StoredApart v' := by
  intro apart
  let v : LocationValue .tai :=
    { octets := [0x13, 0x00, 0x14, 0, 10]
      isPlace := rfl
      full := rfl
      decimal := by decide
      filled := by decide }
  let v' : LocationValue .tai :=
    { octets := [0x13, 0x10, 0x14, 0, 10]
      isPlace := rfl
      full := rfl
      decimal := by decide
      filled := by decide }
  have differs : v.Differs v' := .inl (by decide)
  exact storedApart_iff.mp (apart .tai v v' differs) (by decide)

end Reading

end LocationValue

end Pcrf
