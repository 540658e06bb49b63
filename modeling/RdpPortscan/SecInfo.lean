import RdpPortscan.Core

/-!
# The client info record

`sec.Client` keeps the credentials it sends in an `RDPInfo`: each of domain,
user name and password is stored by its setter as the string's UTF-16 code
units, little-endian, followed by one 16-bit zero. `RDPInfo.Serialize` writes
the code page, the flags, five 16-bit byte counts `len(field) - 2`, the five
fields, and, when asked, the extended block packed by `struc`.

The extended block is taken as a parameter (`packExtendedInfo`): the `struc`
library is not part of the sources, and nothing here reads what it writes.

`parseInfo` reads a record back by its layout. The round trip
(`info_round_trip`) goes through a run lemma for the setters
(`credential_setters`), which says what every field holds after any sequence of
calls, and the layout lemma (`parseInfo_serialize`), which reads back any
record whose fields fit their byte counts.
-/

namespace RdpPortscan

/-! ## UTF-16 -/

/-- `utf16.Encode` on one rune: one unit below `0x10000`, a surrogate pair above.
A `Char` is a Unicode scalar value, as every rune of `[]rune(s)` is, so the
replacement branch for invalid runes never applies. -/
def utf16EncodeRune (v : Char) : List (BitVec 16) :=
  if v.val.toNat < 0x10000 then [BitVec.ofNat 16 v.val.toNat]
  else
    let r := v.val.toNat - 0x10000
    [BitVec.ofNat 16 (0xD800 + ((r >>> 10) &&& 0x3FF)), BitVec.ofNat 16 (0xDC00 + (r &&& 0x3FF))]

def utf16Encode (s : String) : List (BitVec 16) := s.toList.flatMap utf16EncodeRune

/-! ## The record

`INFO_MOUSE`, `INFO_DISABLECTRLALTDEL`, `INFO_UNICODE`, `INFO_LOGONNOTIFY`,
`INFO_ENABLEWINDOWSKEY` and `INFO_LOGONERRORS` are the flags `NewRDPInfo` sets;
`AF_INET` is the address family of `NewExtendedInfo`. -/

def infoMouse : BitVec 32 := 0x00000001
def infoDisablectrlaltdel : BitVec 32 := 0x00000002
def infoUnicode : BitVec 32 := 0x00000010
def infoLogonnotify : BitVec 32 := 0x00000040
def infoEnablewindowskey : BitVec 32 := 0x00000100
def infoLogonerrors : BitVec 32 := 0x00010000
def afInet : BitVec 16 := 0x0002

/-- `RDPExtendedInfo`; its byte counts are `struc`'s `sizeof` of the two byte
fields. -/
structure RDPExtendedInfo where
  clientAddressFamily : BitVec 16
  clientAddress : Bytes
  clientDir : Bytes
  clientTimeZone : Bytes
  clientSessionId : BitVec 32
  performanceFlags : BitVec 32
deriving DecidableEq, Repr

def newExtendedInfo : RDPExtendedInfo :=
  { clientAddressFamily := afInet, clientAddress := [0, 0], clientDir := [0, 0],
    clientTimeZone := List.replicate 172 0, clientSessionId := 0, performanceFlags := 0 }

/-- `RDPInfo`. Its `Cb...` fields are never read: `Serialize` computes the counts
from the fields. -/
structure RDPInfo where
  codePage : BitVec 32
  flag : BitVec 32
  domain : Bytes
  userName : Bytes
  password : Bytes
  alternateShell : Bytes
  workingDir : Bytes
  extendedInfo : RDPExtendedInfo
deriving DecidableEq, Repr

/-- `NewRDPInfo`: every text field is an empty string, its terminator alone. -/
def newRDPInfo : RDPInfo :=
  { codePage := 0,
    flag := infoMouse ||| infoUnicode ||| infoLogonnotify ||| infoLogonerrors |||
      infoDisablectrlaltdel ||| infoEnablewindowskey,
    domain := [0, 0], userName := [0, 0], password := [0, 0], alternateShell := [0, 0],
    workingDir := [0, 0], extendedInfo := newExtendedInfo }

/-- The byte count `uint16(len(field)-2)` written for a field. -/
def cbOf (field : Bytes) : BitVec 16 := BitVec.ofInt 16 ((field.length : Int) - 2)

/-- `RDPInfo.Serialize`, with `struc.Pack` of the extended block as
`packExtendedInfo`. -/
def RDPInfo.serialize (packExtendedInfo : RDPExtendedInfo → Bytes) (o : RDPInfo)
    (hasExtended : Bool) : Bytes :=
  writeUInt32LE o.codePage ++ writeUInt32LE o.flag ++
    writeUInt16LE (cbOf o.domain) ++ writeUInt16LE (cbOf o.userName) ++
    writeUInt16LE (cbOf o.password) ++ writeUInt16LE (cbOf o.alternateShell) ++
    writeUInt16LE (cbOf o.workingDir) ++
    o.domain ++ o.userName ++ o.password ++ o.alternateShell ++ o.workingDir ++
    (if hasExtended then packExtendedInfo o.extendedInfo else [])

/-! ## The client and its setters

`Client.SetUser`, `SetPwd` and `SetDomain` share one body, `Client.setCredential`. -/

/-- Modelled from the spec: `gcc.ClientCoreData`, of which the security layer
reads the protocol version only. -/
structure ClientCoreData where
  rdpVersion : BitVec 32
deriving DecidableEq, Repr

/-- The two methods `sec.Client` arms on its transport's `"global"` channel. -/
inductive Client.Handler
  | recvLicenceInfo
  | recvData
deriving DecidableEq, Repr

/-- The state of a `sec.Client`: the record it sends, what the MCS layer handed
it on `"connect"` (of `clientData` the element `0` it reads), and the listeners
it armed on the `"global"` channel. -/
structure Client where
  info : RDPInfo
  clientCore : ClientCoreData
  userId : BitVec 16
  channelId : BitVec 16
  global : List (Listener Client.Handler)
deriving DecidableEq, Repr

/-- `sec.NewClient`: a fresh record, nothing received, nothing armed on
`"global"`. -/
def Client.new : Client :=
  { info := newRDPInfo, clientCore := ⟨0⟩, userId := 0, channelId := 0, global := [] }

/-- The bytes the three setters store for `s`: its UTF-16 units little-endian,
then a 16-bit zero. -/
def encodeCredential (s : String) : Bytes :=
  (utf16Encode s).flatMap writeUInt16LE ++ writeUInt16LE 0

inductive Credential
  | domain
  | userName
  | password
deriving DecidableEq, Repr

def RDPInfo.credential (o : RDPInfo) : Credential → Bytes
  | .domain => o.domain
  | .userName => o.userName
  | .password => o.password

def RDPInfo.setCredential (o : RDPInfo) (b : Bytes) : Credential → RDPInfo
  | .domain => { o with domain := b }
  | .userName => { o with userName := b }
  | .password => { o with password := b }

def Client.setCredential (f : Credential) (c : Client) (s : String) : Client :=
  { c with info := c.info.setCredential (encodeCredential s) f }

def Client.setUser (c : Client) (user : String) : Client := c.setCredential .userName user

def Client.setPwd (c : Client) (pwd : String) : Client := c.setCredential .password pwd

def Client.setDomain (c : Client) (domain : String) : Client := c.setCredential .domain domain

structure Setter where
  field : Credential
  value : String
deriving DecidableEq, Repr

def Client.set (c : Client) (call : Setter) : Client :=
  match call.field with
  | .domain => c.setDomain call.value
  | .userName => c.setUser call.value
  | .password => c.setPwd call.value

/-- The string the last call for field `f` set, if any. -/
def lastSet (f : Credential) : List Setter → Option String
  | [] => none
  | call :: calls => (lastSet f calls).or (if call.field = f then some call.value else none)

@[simp] theorem credential_setCredential (o : RDPInfo) (b : Bytes) (f g : Credential) :
    (o.setCredential b f).credential g = if f = g then b else o.credential g := by
  cases f <;> cases g <;> rfl

@[simp] theorem set_info_credential (c : Client) (call : Setter) (g : Credential) :
    (c.set call).info.credential g =
      if call.field = g then encodeCredential call.value else c.info.credential g := by
  obtain ⟨f, v⟩ := call
  cases f <;> simp [Client.set, Client.setDomain, Client.setUser, Client.setPwd,
    Client.setCredential]

@[simp] theorem set_info_alternateShell (c : Client) (call : Setter) :
    (c.set call).info.alternateShell = c.info.alternateShell := by
  obtain ⟨f, v⟩ := call
  cases f <;> rfl

@[simp] theorem set_info_workingDir (c : Client) (call : Setter) :
    (c.set call).info.workingDir = c.info.workingDir := by
  obtain ⟨f, v⟩ := call
  cases f <;> rfl

@[simp] theorem set_info_fixed (c : Client) (call : Setter) :
    (c.set call).info.codePage = c.info.codePage ∧ (c.set call).info.flag = c.info.flag ∧
      (c.set call).info.extendedInfo = c.info.extendedInfo := by
  obtain ⟨f, v⟩ := call
  cases f <;> exact ⟨rfl, rfl, rfl⟩

/-- After any sequence of setter calls, each credential field holds the encoding
of the last string set for it, or what it held before. -/
theorem credential_setters (calls : List Setter) (c : Client) (f : Credential) :
    (calls.foldl Client.set c).info.credential f =
      ((lastSet f calls).map encodeCredential).getD (c.info.credential f) := by
  induction calls generalizing c with
  | nil => rfl
  | cons call calls ih =>
    rw [List.foldl_cons, ih, lastSet]
    cases lastSet f calls <;> by_cases h : call.field = f <;> simp [h]

/-- The fields no setter writes keep their values over any sequence of calls. -/
theorem setters_keep (calls : List Setter) (c : Client) :
    let o := (calls.foldl Client.set c).info
    o.codePage = c.info.codePage ∧ o.flag = c.info.flag ∧
      o.alternateShell = c.info.alternateShell ∧ o.workingDir = c.info.workingDir ∧
      o.extendedInfo = c.info.extendedInfo := by
  induction calls generalizing c with
  | nil => exact ⟨rfl, rfl, rfl, rfl, rfl⟩
  | cons call calls ih =>
    obtain ⟨h1, h2, h3, h4, h5⟩ := ih (c.set call)
    simp only [List.foldl_cons, h1, h2, h3, h4, h5, set_info_alternateShell, set_info_workingDir,
      set_info_fixed, and_self]

theorem lastSet_mem {f : Credential} {calls : List Setter} {v : String}
    (h : lastSet f calls = some v) : ∃ call ∈ calls, call.value = v := by
  induction calls with
  | nil => cases h
  | cons call calls ih =>
    rw [lastSet] at h
    cases hl : lastSet f calls with
    | some w =>
      rw [hl] at h
      obtain ⟨c', hc', rfl⟩ := ih (by rw [hl]; exact h)
      exact ⟨c', List.mem_cons_of_mem _ hc', rfl⟩
    | none =>
      rw [hl, Option.none_or] at h
      split at h
      · exact ⟨call, List.mem_cons_self _ _, Option.some.inj h⟩
      · cases h

/-! ## Reading the record back -/

def unitsLE : Bytes → List (BitVec 16)
  | b0 :: b1 :: rest => (b1 ++ b0) :: unitsLE rest
  | _ => []

/-- One field as the layout reads it: its byte count, and the `cb + 2` bytes
after the counts read as units. -/
structure LayoutField where
  cb : BitVec 16
  units : List (BitVec 16)
deriving DecidableEq, Repr

def readField (cb : BitVec 16) (s : Bytes) : Option (LayoutField × Bytes) :=
  if cb.toNat + 2 ≤ s.length then
    some (⟨cb, unitsLE (s.take (cb.toNat + 2))⟩, s.drop (cb.toNat + 2))
  else none

/-- The five text fields in the order `Serialize` writes their counts and them. -/
def RDPInfo.fields (o : RDPInfo) : List Bytes :=
  [o.domain, o.userName, o.password, o.alternateShell, o.workingDir]

def readCounts : Nat → Bytes → Option (List (BitVec 16) × Bytes)
  | 0, s => some ([], s)
  | n + 1, s => (readUint16LE s).bind fun (cb, s) =>
    (readCounts n s).map fun (cbs, s) => (cb :: cbs, s)

def readFields : List (BitVec 16) → Bytes → Option (List LayoutField × Bytes)
  | [], s => some ([], s)
  | cb :: cbs, s => (readField cb s).bind fun (field, s) =>
    (readFields cbs s).map fun (fields, s) => (field :: fields, s)

/-- A client info record as its layout reads it. -/
structure InfoLayout where
  codePage : BitVec 32
  flag : BitVec 32
  fields : List LayoutField
  rest : Bytes
deriving DecidableEq, Repr

/-- Parse a client info record: code page and flags, five byte counts, then one
field of `cb + 2` bytes per count; what follows is `rest`. -/
def parseInfo (s : Bytes) : Option InfoLayout :=
  (readUInt32LE s).bind fun (codePage, s) =>
  (readUInt32LE s).bind fun (flag, s) =>
  (readCounts 5 s).bind fun (cbs, s) =>
  (readFields cbs s).map fun (fields, s) => ⟨codePage, flag, fields, s⟩

theorem unitsLE_units (us : List (BitVec 16)) (rest : Bytes) :
    unitsLE (us.flatMap writeUInt16LE ++ rest) = us ++ unitsLE rest := by
  induction us with
  | nil => rfl
  | cons u us ih =>
    show unitsLE (u.setWidth 8 :: (u >>> 8).setWidth 8 :: (us.flatMap writeUInt16LE ++ rest)) = _
    rw [unitsLE, halves_append, ih]
    rfl

theorem length_flatMap_writeUInt16LE (us : List (BitVec 16)) :
    (us.flatMap writeUInt16LE).length = 2 * us.length := by
  induction us with
  | nil => rfl
  | cons u us ih => simp only [List.flatMap_cons, List.length_append, ih]; simp; omega

@[simp] theorem unitsLE_encodeCredential (v : String) :
    unitsLE (encodeCredential v) = utf16Encode v ++ [0] := by
  rw [encodeCredential, unitsLE_units]; rfl

@[simp] theorem length_encodeCredential (v : String) :
    (encodeCredential v).length = 2 * (utf16Encode v).length + 2 := by
  simp only [encodeCredential, List.length_append, length_flatMap_writeUInt16LE,
    length_writeUInt16LE]

theorem cbOf_toNat {field : Bytes} (h : 2 ≤ field.length) (h' : field.length < 65538) :
    (cbOf field).toNat = field.length - 2 := by
  simp only [cbOf, BitVec.toNat_ofInt]
  omega

theorem readField_append {field : Bytes} (rest : Bytes) (h : 2 ≤ field.length)
    (h' : field.length < 65538) :
    readField (cbOf field) (field ++ rest) = some (⟨cbOf field, unitsLE field⟩, rest) := by
  have hcb : (cbOf field).toNat + 2 = field.length := by rw [cbOf_toNat h h']; omega
  simp [readField, hcb, List.take_left', List.drop_left']

/-- A field fits its byte count: at least its terminator, and at most `65535 + 2`
bytes. -/
def FitsCount (field : Bytes) : Prop := 2 ≤ field.length ∧ field.length < 65538

theorem readCounts_append (cbs : List (BitVec 16)) (rest : Bytes) :
    readCounts cbs.length (cbs.flatMap writeUInt16LE ++ rest) = some (cbs, rest) := by
  induction cbs with
  | nil => rfl
  | cons cb cbs ih =>
    rw [List.flatMap_cons, List.append_assoc, List.length_cons, readCounts,
      readUint16LE_writeUInt16LE, Option.some_bind]
    simp only [ih, Option.map_some']

theorem readFields_append (fields : List Bytes) (h : ∀ f ∈ fields, FitsCount f) (rest : Bytes) :
    readFields (fields.map cbOf) (fields.flatten ++ rest) =
      some (fields.map fun f => ⟨cbOf f, unitsLE f⟩, rest) := by
  induction fields with
  | nil => rfl
  | cons f fields ih =>
    have hf := h f (List.mem_cons_self _ _)
    rw [List.map_cons, List.flatten_cons, List.append_assoc, readFields,
      readField_append _ hf.1 hf.2, Option.some_bind]
    simp only [ih fun g hg => h g (List.mem_cons_of_mem _ hg), Option.map_some', List.map_cons]

theorem serialize_eq (packExtendedInfo : RDPExtendedInfo → Bytes) (o : RDPInfo)
    (hasExtended : Bool) :
    o.serialize packExtendedInfo hasExtended =
      writeUInt32LE o.codePage ++ writeUInt32LE o.flag ++ (o.fields.map cbOf).flatMap writeUInt16LE ++
        o.fields.flatten ++ (if hasExtended then packExtendedInfo o.extendedInfo else []) := by
  simp [RDPInfo.serialize, RDPInfo.fields]

/-- Every record whose five text fields fit their counts reads back as written. -/
theorem parseInfo_serialize (packExtendedInfo : RDPExtendedInfo → Bytes) (o : RDPInfo)
    (hasExtended : Bool) (h : ∀ f ∈ o.fields, FitsCount f) :
    parseInfo (o.serialize packExtendedInfo hasExtended) =
      some ⟨o.codePage, o.flag, o.fields.map fun f => ⟨cbOf f, unitsLE f⟩,
        if hasExtended then packExtendedInfo o.extendedInfo else []⟩ := by
  have hcounts : ∀ rest, readCounts 5 ((o.fields.map cbOf).flatMap writeUInt16LE ++ rest) =
      some (o.fields.map cbOf, rest) := readCounts_append (o.fields.map cbOf)
  rw [serialize_eq]
  simp only [parseInfo, List.append_assoc, readUInt32LE_writeUInt32LE, Option.some_bind, hcounts,
    readFields_append _ h, Option.map_some']

/-- How the layout reads a field holding the string `v`: `2 * units` bytes
counted, then the units and one zero terminator. -/
def credentialLayout (v : String) : LayoutField :=
  ⟨BitVec.ofNat 16 (2 * (utf16Encode v).length), utf16Encode v ++ [0]⟩

theorem fits_encodeCredential {v : String} (h : (utf16Encode v).length < 32768) :
    FitsCount (encodeCredential v) :=
  ⟨by simp, by simp; omega⟩

theorem layout_encodeCredential {v : String} (h : (utf16Encode v).length < 32768) :
    (⟨cbOf (encodeCredential v), unitsLE (encodeCredential v)⟩ : LayoutField) =
      credentialLayout v := by
  rw [credentialLayout, unitsLE_encodeCredential, LayoutField.mk.injEq]
  refine ⟨?_, rfl⟩
  apply BitVec.eq_of_toNat_eq
  rw [cbOf_toNat (fits_encodeCredential h).1 (fits_encodeCredential h).2, BitVec.toNat_ofNat]
  simp; omega

/-- A record whose five fields hold the encodings of `vs`, each with fewer than
`32768` units, reads back as their layouts. -/
theorem parseInfo_serialize_encoded (packExtendedInfo : RDPExtendedInfo → Bytes) (o : RDPInfo)
    (hasExtended : Bool) {vs : List String} (hfields : o.fields = vs.map encodeCredential)
    (hvs : ∀ v ∈ vs, (utf16Encode v).length < 32768) :
    parseInfo (o.serialize packExtendedInfo hasExtended) =
      some ⟨o.codePage, o.flag, vs.map credentialLayout,
        if hasExtended then packExtendedInfo o.extendedInfo else []⟩ := by
  have hfits : ∀ f ∈ o.fields, FitsCount f := by
    rw [hfields]
    intro f hf
    obtain ⟨v, hv, rfl⟩ := List.mem_map.mp hf
    exact fits_encodeCredential (hvs v hv)
  rw [parseInfo_serialize _ _ _ hfits, hfields, List.map_map]
  congr 2
  exact List.map_congr_left fun v hv => layout_encodeCredential (hvs v hv)

theorem credential_new_setters (calls : List Setter) (f : Credential) :
    (calls.foldl Client.set Client.new).info.credential f =
      encodeCredential ((lastSet f calls).getD "") := by
  rw [credential_setters]
  cases lastSet f calls with
  | none => cases f <;> rfl
  | some v => rfl

theorem units_lastSet_lt {calls : List Setter}
    (hunits : ∀ call ∈ calls, (utf16Encode call.value).length < 32768) (f : Credential) :
    (utf16Encode ((lastSet f calls).getD "")).length < 32768 := by
  cases hl : lastSet f calls with
  | none => decide
  | some v =>
    obtain ⟨call, hmem, rfl⟩ := lastSet_mem hl
    exact hunits call hmem

/-- The strings the five text fields hold after the calls: the three
credentials last set, or empty, and the two fields no setter writes, empty. -/
def fieldStrings (calls : List Setter) : List String :=
  [(lastSet .domain calls).getD "", (lastSet .userName calls).getD "",
    (lastSet .password calls).getD "", "", ""]

theorem fields_after_setters (calls : List Setter) :
    (calls.foldl Client.set Client.new).info.fields = (fieldStrings calls).map encodeCredential := by
  obtain ⟨-, -, has, hwd, -⟩ := setters_keep calls Client.new
  rw [RDPInfo.fields, has, hwd]
  exact congrArg₂ List.cons (credential_new_setters calls .domain)
    (congrArg₂ List.cons (credential_new_setters calls .userName)
      (congrArg₂ List.cons (credential_new_setters calls .password) rfl))

theorem fieldStrings_units {calls : List Setter}
    (hunits : ∀ call ∈ calls, (utf16Encode call.value).length < 32768) :
    ∀ v ∈ fieldStrings calls, (utf16Encode v).length < 32768 := by
  simp only [fieldStrings, List.mem_cons, List.not_mem_nil, or_false]
  rintro v (rfl | rfl | rfl | rfl | rfl)
  exacts [units_lastSet_lt hunits _, units_lastSet_lt hunits _, units_lastSet_lt hunits _,
    by decide, by decide]

/-- After any setter calls on a fresh client whose strings all have fewer than
`32768` units, the serialized record reads back by its layout as the three
credentials last set (empty if never set), each its units and one terminator,
the two other fields empty, and the extended block, if asked, right after them. -/
theorem info_round_trip (packExtendedInfo : RDPExtendedInfo → Bytes) (calls : List Setter)
    (hasExtended : Bool) (hunits : ∀ call ∈ calls, (utf16Encode call.value).length < 32768) :
    parseInfo ((calls.foldl Client.set Client.new).info.serialize packExtendedInfo hasExtended) =
      some { codePage := newRDPInfo.codePage, flag := newRDPInfo.flag,
             fields := [credentialLayout ((lastSet .domain calls).getD ""),
                        credentialLayout ((lastSet .userName calls).getD ""),
                        credentialLayout ((lastSet .password calls).getD ""),
                        credentialLayout "", credentialLayout ""],
             rest := if hasExtended then packExtendedInfo newExtendedInfo else [] } := by
  obtain ⟨hcp, hfl, -, -, hext⟩ := setters_keep calls Client.new
  rw [parseInfo_serialize_encoded _ _ _ (fields_after_setters calls) (fieldStrings_units hunits),
    hcp, hfl, hext]
  rfl

/-- `SetUser("admin")` then `SetPwd("pw")`, serialized without the extended block. -/
theorem info_round_trip_admin :
    (∀ call ∈ [(⟨.userName, "admin"⟩ : Setter), ⟨.password, "pw"⟩],
        (utf16Encode call.value).length < 32768) ∧
      parseInfo (([(⟨.userName, "admin"⟩ : Setter), ⟨.password, "pw"⟩].foldl Client.set
          Client.new).info.serialize (fun _ => []) false) =
        some { codePage := 0, flag := newRDPInfo.flag,
               fields := [credentialLayout "", credentialLayout "admin", credentialLayout "pw",
                          credentialLayout "", credentialLayout ""],
               rest := [] } :=
  ⟨by decide, info_round_trip (fun _ => []) _ false (by decide)⟩

end RdpPortscan
