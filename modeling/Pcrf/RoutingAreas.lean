import Mathlib.Data.List.TakeWhile
import Pcrf.UserLocation

/-!
The routing area in the two forms it comes in: RAI, with the digits of the network as characters,
and 3GPP-User-Location-Info of type 2, with the digits in half octets. The same area has the same
text, but the first parser asks for one octet more than the value has.
-/

namespace Pcrf

/-! ### The two forms -/

/-- A routing area: decimal digits, of which the network code has two, and the codes. -/
structure RoutingArea where
  mcc1 : Fin 10
  mcc2 : Fin 10
  mcc3 : Fin 10
  mnc1 : Fin 10
  mnc2 : Fin 10
  lac1 : UInt8
  lac2 : UInt8
  rac : UInt8
  deriving Repr, DecidableEq

namespace RoutingArea

def asciiDigit (digit : Fin 10) : UInt8 := UInt8.ofNat (48 + digit)

/-- An octet with its lower half first. -/
def packed (low high : Fin 16) : UInt8 := UInt8.ofNat (low + 16 * high)

def nibble (digit : Fin 10) : Fin 16 := digit.castLE (by decide)

variable (area : RoutingArea)

/-- The value of RAI, with any further octets behind it. -/
def asRAI (further : List UInt8) : List UInt8 :=
  [asciiDigit area.mcc1, asciiDigit area.mcc2, asciiDigit area.mcc3, asciiDigit area.mnc1,
    asciiDigit area.mnc2, area.lac1, area.lac2, area.rac] ++ further

/-- The value of 3GPP-User-Location-Info. What stands for the third digit of the network code is
not read, and the padding may be there or not. -/
def asUserLocation (filler : Fin 16) (padding : Option UInt8) : List UInt8 :=
  [2, packed (nibble area.mcc1) (nibble area.mcc2), packed (nibble area.mcc3) filler,
    packed (nibble area.mnc1) (nibble area.mnc2), area.lac1, area.lac2, area.rac] ++
    padding.toList

/-- The network as it is written, and the codes behind it. -/
def networkText : String :=
  toString area.mcc1.val ++ toString area.mcc2.val ++ toString area.mcc3.val ++ "-" ++
    toString area.mnc1.val ++ toString area.mnc2.val

/-- Both parsers accept the area and store the same text of it. -/
def StoredAlike (further : List UInt8) : Prop :=
  ∀ coValue filler padding stack beyond location bLoaded,
    (pcrfParseRAI (area.asRAI further) coValue).1 = 0 ∧
    ∃ result, pcrfParseUserLocation ⟨stack, beyond, true⟩ (area.asUserLocation filler padding)
        location bLoaded = some result ∧
      result.iRetVal = 0 ∧
      result.soUserLocationInfo.coRAI = (pcrfParseRAI (area.asRAI further) coValue).2

/-! ### The network -/

theorem lowNibble_packed (low high : Fin 16) : lowNibble (packed low high) = low := by
  revert low high
  decide

theorem highNibble_packed (low high : Fin 16) : highNibble (packed low high) = high := by
  revert low high
  decide

theorem char_asciiDigit (digit : Fin 10) :
    [Char.ofNat (asciiDigit digit).toNat] = (toString digit.val).toList := by
  revert digit
  decide

/-- The characters are those that the numbers are written with. -/
theorem chars_network :
    [area.mcc1, area.mcc2, area.mcc3].map (fun digit => Char.ofNat (asciiDigit digit).toNat) ++
      '-' :: [area.mnc1, area.mnc2].map (fun digit => Char.ofNat (asciiDigit digit).toNat) =
      area.networkText.toList := by
  simp only [networkText, String.toList_append, ← char_asciiDigit]
  rfl

/-- None of them ends the string. -/
theorem cStr_networkText : cStr area.networkText = area.networkText := by
  have hdigit (digit : Fin 10) : Char.ofNat 0 ∉ (toString digit.val).toList := by
    revert digit
    decide
  have hall : Char.ofNat 0 ∉ area.networkText.toList := by
    simp only [networkText, String.toList_append, List.mem_append, not_or]
    exact ⟨⟨⟨⟨⟨hdigit _, hdigit _⟩, hdigit _⟩, by decide⟩, hdigit _⟩, hdigit _⟩
  have hne : ∀ c ∈ area.networkText.toList, c ≠ Char.ofNat 0 := by
    rintro c hc rfl
    exact hall hc
  unfold cStr
  rw [List.takeWhile_eq_self_iff.mpr fun c hc => by simpa using hne c hc, String.ofList_toList]

/-! ### The parsers -/

/-- With a further octet RAI is accepted. -/
theorem parseRAI_cons (octet : UInt8) (further : List UInt8) (coValue : OtlValue String) :
    pcrfParseRAI (area.asRAI (octet :: further)) coValue =
      (0, formatRAI ⟨⟨0, 0, 0, 0, 0, 0⟩, area.lac1.toNat, area.lac2.toNat, area.rac.toNat⟩
        area.networkText) := by
  simp only [asRAI, List.cons_append, List.nil_append, pcrfParseRAI]
  have hchars := area.chars_network
  simp only [List.map_cons, List.map_nil] at hchars ⊢
  rw [hchars, String.ofList_toList, cStr_networkText]

theorem parseRAI_nil (coValue : OtlValue String) :
    pcrfParseRAI (area.asRAI []) coValue = (EINVAL, coValue) := rfl

theorem parseUserLocation_rai (filler : Fin 16) (padding : Option UInt8) (stack : Memory)
    (beyond : UInt8) (location : SUserLocation) (bLoaded : Option Bool) :
    ∃ result, pcrfParseUserLocation ⟨stack, beyond, true⟩ (area.asUserLocation filler padding)
        location bLoaded = some result ∧
      result.iRetVal = 0 ∧
      result.soUserLocationInfo.coRAI =
        formatRAI ⟨⟨0, 0, 0, 0, 0, 0⟩, area.lac1.toNat, area.lac2.toNat, area.rac.toNat⟩
          area.networkText := by
  have hlong : EUserLocationType.rai.size ≤ (area.asUserLocation filler padding).length := by
    simp [EUserLocationType.size, asUserLocation]
  have hfits : (area.asUserLocation filler padding).tail.length ≤ EUserLocationType.rai.size := by
    cases padding <;> simp [EUserLocationType.size, asUserLocation]
  -- the structure holds what stands behind the octet with the type
  let memory : Memory := fun i => (area.asUserLocation filler padding).tail[i]?.getD (stack i)
  have hnetwork : formatMCCMNC (.load memory) = area.networkText := by
    have hload : SMCCMNC.load memory =
        ⟨area.mcc1, area.mcc2, area.mcc3, filler, area.mnc1, area.mnc2⟩ := by
      simp [SMCCMNC.load, memory, asUserLocation, lowNibble_packed, highNibble_packed, nibble]
    rw [hload]
    rfl
  refine ⟨⟨0, EUserLocationType.rai.store memory (formatMCCMNC (.load memory)) location,
    bLoaded.map fun _ => true⟩, ?_, rfl, ?_⟩
  · have htype : EUserLocationType.ofOctet
        ((area.asUserLocation filler padding).headD beyond) = some .rai := rfl
    simp only [pcrfParseUserLocation, htype, if_pos hlong, memcpy, if_pos hfits, if_true]
    rfl
  · rw [hnetwork]
    rfl

/-- The two agree exactly when an octet follows the RAC. -/
theorem storedAlike_iff (further : List UInt8) : area.StoredAlike further ↔ further ≠ [] := by
  constructor
  · rintro alike rfl
    -- the value alone is shorter than the parser asks for
    obtain ⟨hzero, -⟩ := alike .empty 15 none (fun _ => 0) 0 {} none
    rw [parseRAI_nil] at hzero
    exact absurd hzero (by decide)
  · intro hfurther coValue filler padding stack beyond location bLoaded
    obtain ⟨octet, further, rfl⟩ := List.exists_cons_of_ne_nil hfurther
    rw [parseRAI_cons]
    exact ⟨rfl, area.parseUserLocation_rai filler padding stack beyond location bLoaded⟩

/-- The routing area 1 of the location area 10 in the network 250-99. -/
theorem not_storedAlike_exact : ¬ ∀ (area : RoutingArea) further, area.StoredAlike further := by
  intro alike
  have hzero := (alike ⟨2, 5, 0, 9, 9, 0, 10, 1⟩ [] .empty 15 none (fun _ => 0) 0 {} none).1
  exact absurd hzero (by decide)

end RoutingArea

end Pcrf
