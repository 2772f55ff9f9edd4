import Pcrf.DefaultRules

/-!
3GPP-User-Location-Info and RAI (`pcrf_ULI.cpp`): the packed structures that an octet string is
copied into, and the texts that are made of them. The octets of a structure that nothing was
copied to keep what was on the stack before.
-/

namespace Pcrf

/-! ### The structures -/

/-- The octets of a structure, by their place in it. -/
abbrev Memory := Nat → UInt8

/-- The member that begins at a place of a structure. -/
def Memory.member (memory : Memory) (place : Nat) : Memory := fun i => memory (place + i)

/-- The lower half of an octet, where its first bit-field stands. -/
def lowNibble (octet : UInt8) : Nat := octet.toNat % 16

def highNibble (octet : UInt8) : Nat := octet.toNat / 16

/-- `SMCCMNC`. The third digit of the network code is in no text. -/
structure SMCCMNC where
  uiMCC1 : Nat
  uiMCC2 : Nat
  uiMCC3 : Nat
  uiMNC3 : Nat
  uiMNC1 : Nat
  uiMNC2 : Nat
  deriving Repr, DecidableEq

def SMCCMNC.load (memory : Memory) : SMCCMNC where
  uiMCC1 := lowNibble (memory 0)
  uiMCC2 := highNibble (memory 0)
  uiMCC3 := lowNibble (memory 1)
  uiMNC3 := highNibble (memory 1)
  uiMNC1 := lowNibble (memory 2)
  uiMNC2 := highNibble (memory 2)

/-- `SCGI` -/
structure SCGI where
  soMCCMNC : SMCCMNC
  uiLAC1 : Nat
  uiLAC2 : Nat
  uiCI1 : Nat
  uiCI2 : Nat

def SCGI.load (memory : Memory) : SCGI where
  soMCCMNC := .load memory
  uiLAC1 := (memory 3).toNat
  uiLAC2 := (memory 4).toNat
  uiCI1 := (memory 5).toNat
  uiCI2 := (memory 6).toNat

/-- `SRAI`, less its last octet, which is padding. -/
structure SRAI where
  soMCCMNC : SMCCMNC
  uiLAC1 : Nat
  uiLAC2 : Nat
  uiRAC : Nat

def SRAI.load (memory : Memory) : SRAI where
  soMCCMNC := .load memory
  uiLAC1 := (memory 3).toNat
  uiLAC2 := (memory 4).toNat
  uiRAC := (memory 5).toNat

/-- `STAI` -/
structure STAI where
  soMCCMNC : SMCCMNC
  uiTAC1 : Nat
  uiTAC2 : Nat

def STAI.load (memory : Memory) : STAI where
  soMCCMNC := .load memory
  uiTAC1 := (memory 3).toNat
  uiTAC2 := (memory 4).toNat

/-- `SECGI`. The first octet of the cell identity has four bits of it. -/
structure SECGI where
  soMCCMNC : SMCCMNC
  uiECI1 : Nat
  uiECI2 : Nat
  uiECI3 : Nat
  uiECI4 : Nat

def SECGI.load (memory : Memory) : SECGI where
  soMCCMNC := .load memory
  uiECI1 := lowNibble (memory 3)
  uiECI2 := (memory 4).toNat
  uiECI3 := (memory 5).toNat
  uiECI4 := (memory 6).toNat

/-- `EUserLocationType` -/
inductive EUserLocationType where
  | cgi
  | sai
  | rai
  | tai
  | ecgi
  | taiEcgi
  deriving Repr, DecidableEq

def EUserLocationType.ofOctet (octet : UInt8) : Option EUserLocationType :=
  if octet = 0 then some cgi
  else if octet = 1 then some sai
  else if octet = 2 then some rai
  else if octet = 128 then some tai
  else if octet = 129 then some ecgi
  else if octet = 130 then some taiEcgi
  else none

/-- `sizeof` of the structure of a location type. -/
def EUserLocationType.size : EUserLocationType → Nat
  | cgi => 7
  | sai => 7
  | rai => 7
  | tai => 5
  | ecgi => 7
  | taiEcgi => 12

/-- `memcpy` into a structure of `size` octets; `none` when that is less than what is copied. -/
def memcpy (size : Nat) (stack : Memory) (octets : List UInt8) : Option Memory :=
  if octets.length ≤ size then some fun i => octets[i]?.getD (stack i) else none

/-! ### The texts -/

/-- `"%u%u%u-%u%u"` -/
def formatMCCMNC (so : SMCCMNC) : String :=
  toString so.uiMCC1 ++ toString so.uiMCC2 ++ toString so.uiMCC3 ++ "-" ++
    toString so.uiMNC1 ++ toString so.uiMNC2

/-- The size of the buffers that `snprintf` writes to. -/
def mcValueSize : Nat := 128

/-- `snprintf`: the length of the text, and as much of it as the buffer holds. -/
def snprintf (text : String) : Nat × String :=
  (text.length, String.ofList (text.toList.take (mcValueSize - 1)))

/-- What the formatting functions but that of a CGI do with the text of their fields. -/
def formatLocation (pszMCCMNC text : String) : OtlValue String :=
  let (iFnRes, mcValue) := snprintf text
  if 0 < iFnRes then .of (pszMCCMNC ++ "-" ++ mcValue) else .of pszMCCMNC

/-- The last digit of the CI is the sector: a dash takes its place, and it follows. -/
def formatCGI (so : SCGI) (pszMCCMNC : String) : OtlValue String :=
  let (iFnRes, mcValue) :=
    snprintf (toString (so.uiLAC1 <<< 8 + so.uiLAC2) ++ "-" ++
      toString (so.uiCI1 <<< 8 + so.uiCI2))
  if 0 < iFnRes then
    let strSector := if iFnRes < mcValueSize then mcValue.toList[iFnRes - 1]?.toList else []
    let value := (pszMCCMNC ++ "-" ++ mcValue).toList
    if 0 < strSector.length then .of (String.ofList (value.dropLast ++ '-' :: strSector))
    else .of (String.ofList value)
  else .of pszMCCMNC

def formatRAI (so : SRAI) (pszMCCMNC : String) : OtlValue String :=
  formatLocation pszMCCMNC
    (toString (so.uiLAC1 <<< 8 + so.uiLAC2) ++ "-" ++ toString so.uiRAC)

def formatTAI (so : STAI) (pszMCCMNC : String) : OtlValue String :=
  formatLocation pszMCCMNC (toString (so.uiTAC1 <<< 8 + so.uiTAC2))

def formatECGI (so : SECGI) (pszMCCMNC : String) : OtlValue String :=
  formatLocation pszMCCMNC
    (toString (so.uiECI1 <<< 16 + so.uiECI2 <<< 8 + so.uiECI3) ++ "-" ++ toString so.uiECI4)

example : formatCGI ⟨⟨2, 5, 0, 0, 9, 9⟩, 0, 10, 4, 210⟩ "250-99" = .of "250-99-10-123-4" := by
  decide

/-! ### The parsers -/

/-- What `pcrf_parse_user_location` leaves. -/
structure UserLocationResult where
  iRetVal : Int
  soUserLocationInfo : SUserLocation
  /-- `*p_pbLoaded`; `none` when the pointer is `NULL`. -/
  bLoaded : Option Bool
  deriving Repr, DecidableEq

/-- The second switch. No text is made of the rest of a SAI. -/
def EUserLocationType.store (type : EUserLocationType) (memory : Memory) (pszMCCMNC : String)
    (location : SUserLocation) : SUserLocation :=
  match type with
  | cgi => { location with coCGI := formatCGI (.load memory) pszMCCMNC }
  | sai => location
  | rai => { location with coRAI := formatRAI (.load memory) pszMCCMNC }
  | tai => { location with coTAI := formatTAI (.load memory) pszMCCMNC }
  | ecgi => { location with coECGI := formatECGI (.load memory) pszMCCMNC }
  | taiEcgi =>
    { location with
      coTAI := formatTAI (.load memory) pszMCCMNC
      coECGI := formatECGI (.load (memory.member 5)) pszMCCMNC }

/-- What else the outcome depends on: the stack, the octet that stands where the first one of an
empty value would, and whether `asprintf` finds the memory for its text. -/
structure ParseEnv where
  stack : Memory
  beyond : UInt8
  asprintf : Bool

/-- `none` when more is copied than the structure holds. -/
def pcrfParseUserLocation (env : ParseEnv) (data : List UInt8)
    (soUserLocationInfo : SUserLocation) (bLoaded : Option Bool) : Option UserLocationResult :=
  match EUserLocationType.ofOctet (data.headD env.beyond) with
  | none => some ⟨-2, soUserLocationInfo, bLoaded⟩
  | some type =>
    if type.size ≤ data.length then
      (memcpy type.size env.stack data.tail).map fun memory =>
        -- the network is that of the first structure, in a TAI with an ECGI too
        let pszMCCMNC := formatMCCMNC (.load memory)
        if env.asprintf then
          ⟨0, type.store memory pszMCCMNC soUserLocationInfo, bLoaded.map fun _ => true⟩
        else ⟨0, soUserLocationInfo, bLoaded⟩
    else some ⟨-1, soUserLocationInfo, bLoaded⟩

/-- The digits of the network come as characters, which end at a null. -/
def pcrfParseRAI (data : List UInt8) (coValue : OtlValue String) : Int × OtlValue String :=
  match data with
  | mcc1 :: mcc2 :: mcc3 :: mnc1 :: mnc2 :: lac1 :: lac2 :: rac :: _padding :: _ =>
    let chars := [mcc1, mcc2, mcc3].map fun octet => Char.ofNat octet.toNat
    let network := chars ++ '-' :: [mnc1, mnc2].map fun octet => Char.ofNat octet.toNat
    let so : SRAI := ⟨⟨0, 0, 0, 0, 0, 0⟩, lac1.toNat, lac2.toNat, rac.toNat⟩
    (0, formatRAI so (cStr (String.ofList network)))
  | _ => (EINVAL, coValue)

end Pcrf
