/-
This file models `protocol.h`: the message types, the two kinds of messages with
free text in them, and how they are written and parsed.

Messages are colon-separated fields after the magic word. The writers put names
into the text as they are; the parsers split at the first colons and leave the
numeric fields to `std::stoi` and `std::stoull`, which throw.
-/

import UniversalAirdrop.Cxx
import UniversalAirdrop.Library.Stream

namespace UniversalAirdrop

open Streams Numeral

/-! ### Constants -/

def magic : Bytes := ascii "UAIRDROP"
def headerDelim : UInt8 := 10
def fieldDelim : UInt8 := 58
def chunkSize : ℕ := 4096

inductive MsgType
  | discovery
  | fileHeader
  | fileData
  | fileAck
  | fileErr
  | fileHeaderEncrypted
  deriving DecidableEq, Repr

/-- The number that stands for a message type on the wire. -/
def MsgType.code : MsgType → ℕ
  | .discovery => 1
  | .fileHeader => 2
  | .fileData => 3
  | .fileAck => 4
  | .fileErr => 5
  | .fileHeaderEncrypted => 6

/-! ### Discovery messages -/

structure DeviceInfo where
  name : Bytes
  os : Bytes
  tcpPort : UInt16
  ip : Bytes
  deriving DecidableEq, Repr

def serializeDiscovery (info : DeviceInfo) : Bytes :=
  magic ++ fieldDelim :: decimal MsgType.discovery.code ++ fieldDelim ::
    info.name ++ fieldDelim :: info.os ++ fieldDelim :: decimal info.tcpPort.toNat

/-- The type, name, os and port fields, if there are that many. -/
def discoveryFields (raw : Bytes) : Option (Bytes × Bytes × Bytes × Bytes) := do
  let (_, iss) ← getline fieldDelim raw
  let (typeStr, iss) ← getline fieldDelim iss
  let (name, iss) ← getline fieldDelim iss
  let (os, iss) ← getline fieldDelim iss
  let (portStr, _) ← getline fieldDelim iss
  return (typeStr, name, os, portStr)

/-- `none` is the result `false`. The address is left empty: the listener fills it in. -/
def parseDiscovery (raw : Bytes) : Except Fault (Option DeviceInfo) :=
  if magic <+: raw then
    match discoveryFields raw with
    | none => .ok none
    | some (typeStr, name, os, portStr) => do
      let type ← stoi typeStr
      if type ≠ MsgType.discovery.code then return none
      let port ← stoi portStr
      return some { name, os, tcpPort := UInt16.ofInt port, ip := [] }
  else .ok none

/-! ### File headers -/

structure FileHeader where
  filename : Bytes
  size : UInt64
  encrypted : Bool
  deriving DecidableEq, Repr

/-- The message type of a header. -/
def FileHeader.type (header : FileHeader) : MsgType :=
  if header.encrypted then .fileHeaderEncrypted else .fileHeader

/-- A header without the newline that ends it. -/
def headerLine (header : FileHeader) : Bytes :=
  magic ++ fieldDelim :: decimal header.type.code ++ fieldDelim ::
    header.filename ++ fieldDelim :: decimal header.size.toNat

def serializeFileHeader (header : FileHeader) : Bytes :=
  headerLine header ++ [headerDelim]

/-- The type, filename and size fields, if there are that many. -/
def fileHeaderFields (raw : Bytes) : Option (Bytes × Bytes × Bytes) := do
  let (_, iss) ← getline fieldDelim raw
  let (typeStr, iss) ← getline fieldDelim iss
  let (filename, iss) ← getline fieldDelim iss
  let (sizeStr, _) ← getline fieldDelim iss
  return (typeStr, filename, sizeStr)

/-- `none` is the result `false`. -/
def parseFileHeader (raw : Bytes) : Except Fault (Option FileHeader) :=
  if magic <+: raw then
    match fileHeaderFields raw with
    | none => .ok none
    | some (typeStr, filename, sizeStr) => do
      let type ← stoi typeStr
      if type ≠ MsgType.fileHeader.code ∧ type ≠ MsgType.fileHeaderEncrypted.code then
        return none
      let size ← stoull sizeStr
      return some { filename, size, encrypted := type = MsgType.fileHeaderEncrypted.code }
  else .ok none

/-! ### What is written and read back -/

theorem notMem_magic : fieldDelim ∉ magic := by decide

theorem fieldDelim_notMem_decimal (number : ℕ) : fieldDelim ∉ decimal number :=
  notMem_decimal (by decide) number

theorem headerDelim_notMem_decimal (number : ℕ) : headerDelim ∉ decimal number :=
  notMem_decimal (by decide) number

theorem stoi_code (type : MsgType) : stoi (decimal type.code) = .ok type.code :=
  stoi_decimal (by cases type <;> decide)

/-- The fields of a header line whose filename field is read up to `rest`. -/
theorem fileHeaderFields_append (type : MsgType) {filename sizeStr rest after : Bytes}
    (nameRead : getline fieldDelim rest = some (filename, after))
    (sizeRead : ∃ left, getline fieldDelim after = some (sizeStr, left)) :
    fileHeaderFields (magic ++ fieldDelim :: decimal type.code ++ fieldDelim :: rest) =
      some (decimal type.code, filename, sizeStr) := by
  obtain ⟨left, sizeRead⟩ := sizeRead
  rw [fileHeaderFields, List.append_assoc, List.cons_append,
    getline_append_delim notMem_magic]
  simp only [Option.bind_eq_bind, Option.bind_some]
  rw [getline_append_delim (fieldDelim_notMem_decimal _)]
  simp only [Option.bind_some, nameRead, sizeRead]
  rfl

/-- Every line that begins with the magic word, a header type and two more fields parses as
the conversion of its size field goes. -/
theorem parseFileHeader_append (header : FileHeader) {filename sizeStr rest after : Bytes}
    (nameRead : getline fieldDelim rest = some (filename, after))
    (sizeRead : ∃ left, getline fieldDelim after = some (sizeStr, left)) :
    parseFileHeader (magic ++ fieldDelim :: decimal header.type.code ++ fieldDelim :: rest) =
      (stoull sizeStr).map fun size =>
        some { filename, size, encrypted := header.encrypted } := by
  rw [parseFileHeader, if_pos (by rw [List.append_assoc]; exact List.prefix_append _ _),
    fileHeaderFields_append _ nameRead sizeRead]
  simp only [stoi_code]
  cases encrypted : header.encrypted <;>
    cases stoull sizeStr <;> simp [FileHeader.type, encrypted, MsgType.code] <;> rfl

/-- A header line parses back to the header it was written from, when no colon stands in the
filename. -/
theorem parseFileHeader_headerLine (header : FileHeader)
    (plain : fieldDelim ∉ header.filename) :
    parseFileHeader (headerLine header) = .ok (some header) := by
  have nameRead := getline_append_delim plain (decimal header.size.toNat)
  have sizeRead := getline_of_notMem (fieldDelim_notMem_decimal header.size.toNat)
    (decimal_ne_nil _)
  have line : headerLine header = magic ++ fieldDelim :: decimal header.type.code ++
      fieldDelim :: (header.filename ++ fieldDelim :: decimal header.size.toNat) := by
    simp [headerLine]
  rw [line, parseFileHeader_append header nameRead ⟨_, sizeRead⟩, stoull_decimal]
  rfl

/-- What a file header is read from: the fields of a text that begins with the magic word. -/
theorem parseFileHeader_eq_some_iff {raw : Bytes} {header : FileHeader} :
    parseFileHeader raw = .ok (some header) ↔
      magic <+: raw ∧ ∃ typeStr sizeStr,
        fileHeaderFields raw = some (typeStr, header.filename, sizeStr) ∧
        stoi typeStr = .ok header.type.code ∧ stoull sizeStr = .ok header.size := by
  unfold parseFileHeader
  by_cases starts : magic <+: raw
  case neg => simp [starts]
  case pos =>
    rw [if_pos starts]
    cases fields : fileHeaderFields raw with
    | none => simp
    | some texts =>
      obtain ⟨typeStr, filename, sizeStr⟩ := texts
      constructor
      · intro accepted
        cases typeRead : stoi typeStr with
        | error fault =>
          simp only [typeRead, error_bind] at accepted
          cases accepted
        | ok type =>
          simp only [typeRead, ok_bind] at accepted
          split at accepted
          case isTrue => cases accepted
          case isFalse isHeader =>
            cases sizeRead : stoull sizeStr with
            | error fault =>
              rw [sizeRead] at accepted
              cases accepted
            | ok size =>
              rw [sizeRead, ok_bind] at accepted
              cases accepted
              refine ⟨starts, typeStr, sizeStr, rfl, ?_, sizeRead⟩
              rw [not_and_or, not_not, not_not] at isHeader
              obtain rfl | rfl := isHeader <;> rw [typeRead] <;> rfl
      · rintro ⟨-, typeStr', sizeStr', same, typeRead, sizeRead⟩
        cases same
        obtain ⟨filename, size, encrypted⟩ := header
        simp only [typeRead, sizeRead, ok_bind]
        cases encrypted <;> rfl

/-- What an announcement is read from: the fields of a text that begins with the magic word. -/
theorem parseDiscovery_eq_some_iff {raw : Bytes} {info : DeviceInfo} :
    parseDiscovery raw = .ok (some info) ↔
      magic <+: raw ∧ ∃ typeStr portStr port,
        discoveryFields raw = some (typeStr, info.name, info.os, portStr) ∧
        stoi typeStr = .ok MsgType.discovery.code ∧ stoi portStr = .ok port ∧
        info.tcpPort = UInt16.ofInt port ∧ info.ip = [] := by
  unfold parseDiscovery
  by_cases starts : magic <+: raw
  case neg => simp [starts]
  case pos =>
    rw [if_pos starts]
    cases fields : discoveryFields raw with
    | none => simp
    | some texts =>
      obtain ⟨typeStr, name, os, portStr⟩ := texts
      constructor
      · intro accepted
        cases typeRead : stoi typeStr with
        | error fault =>
          simp only [typeRead, error_bind] at accepted
          cases accepted
        | ok type =>
          simp only [typeRead, ok_bind] at accepted
          split at accepted
          case isTrue => cases accepted
          case isFalse isDiscovery =>
            cases portRead : stoi portStr with
            | error fault =>
              rw [portRead] at accepted
              cases accepted
            | ok port =>
              rw [portRead, ok_bind] at accepted
              cases accepted
              rw [not_not] at isDiscovery
              exact ⟨starts, typeStr, portStr, port, rfl, by rw [typeRead, isDiscovery], portRead,
                rfl, rfl⟩
      · rintro ⟨-, typeStr', portStr', port, same, typeRead, portRead, tcpPort, ip⟩
        cases same
        obtain ⟨name, os, _, _⟩ := info
        cases tcpPort
        cases ip
        simp only [typeRead, portRead, ok_bind]
        rfl

/-- The filename of an accepted line is one field of it. -/
theorem fieldDelim_notMem_filename {raw : Bytes} {header : FileHeader}
    (accepted : parseFileHeader raw = .ok (some header)) : fieldDelim ∉ header.filename := by
  obtain ⟨-, typeStr, sizeStr, fields, -, -⟩ := parseFileHeader_eq_some_iff.mp accepted
  simp only [fileHeaderFields, Option.bind_eq_bind, Option.bind_eq_some_iff] at fields
  obtain ⟨_, -, _, -, ⟨name, iss⟩, nameRead, ⟨size, left⟩, -, same⟩ := fields
  cases same
  exact (eq_of_getline_eq_some nameRead).1

/-- A line that ends inside of its filename field is rejected. -/
theorem parseFileHeader_of_cutName (type : MsgType) {name : Bytes} (plain : fieldDelim ∉ name) :
    parseFileHeader (magic ++ fieldDelim :: decimal type.code ++ fieldDelim :: name) =
      .ok none := by
  have missing : fileHeaderFields (magic ++ fieldDelim :: decimal type.code ++
      fieldDelim :: name) = none := by
    rw [fileHeaderFields, List.append_assoc, List.cons_append, getline_append_delim notMem_magic]
    simp only [Option.bind_eq_bind, Option.bind_some]
    rw [getline_append_delim (fieldDelim_notMem_decimal _)]
    simp only [Option.bind_some]
    by_cases empty : name = []
    · rw [empty]
      rfl
    · rw [getline_of_notMem plain empty]
      rfl
  rw [parseFileHeader, if_pos (by rw [List.append_assoc]; exact List.prefix_append _ _), missing]

/-- The newline that ends a header is the first one, when none stands in the filename. -/
theorem headerDelim_notMem_headerLine (header : FileHeader)
    (plain : headerDelim ∉ header.filename) : headerDelim ∉ headerLine header := by
  have inMagic : headerDelim ∉ magic := by decide
  have notDelim : headerDelim ≠ fieldDelim := by decide
  simp [headerLine, inMagic, notDelim, plain, headerDelim_notMem_decimal]

/-- What follows a serialized header is what follows its newline. -/
theorem cut_serializeFileHeader (header : FileHeader)
    (plain : headerDelim ∉ header.filename) (payload : Bytes) :
    cut headerDelim (serializeFileHeader header ++ payload) =
      some (headerLine header, payload) := by
  rw [serializeFileHeader, List.append_assoc, List.singleton_append,
    cut_append_delim (headerDelim_notMem_headerLine header plain)]

/-- A serialized header whose filename has a newline but no colon is rejected: the line ends inside
of the filename field. -/
theorem parseFileHeader_of_newline {header : FileHeader}
    (noColon : fieldDelim ∉ header.filename) (newline : headerDelim ∈ header.filename)
    {payload line rest : Bytes}
    (found : cut headerDelim (serializeFileHeader header ++ payload) = some (line, rest)) :
    parseFileHeader line = .ok none := by
  obtain ⟨before, after, split, absent⟩ : ∃ before after,
      header.filename = before ++ headerDelim :: after ∧ headerDelim ∉ before := by
    cases pieces : cut headerDelim header.filename with
    | none => exact absurd newline (cut_eq_none_iff.mp pieces)
    | some parts => exact ⟨parts.1, parts.2, eq_of_cut_eq_some pieces⟩
  have plain : fieldDelim ∉ before := fun member =>
    noColon (split ▸ List.mem_append_left _ member)
  have inLine : headerDelim ∉ magic ++ fieldDelim :: decimal header.type.code ++
      fieldDelim :: before := by
    have inMagic : headerDelim ∉ magic := by decide
    have notDelim : headerDelim ≠ fieldDelim := by decide
    simp [inMagic, notDelim, absent, headerDelim_notMem_decimal]
  have message : serializeFileHeader header ++ payload =
      (magic ++ fieldDelim :: decimal header.type.code ++ fieldDelim :: before) ++
        headerDelim :: (after ++ fieldDelim :: decimal header.size.toNat ++
          [headerDelim] ++ payload) := by
    simp [serializeFileHeader, headerLine, split]
  rw [message, cut_append_delim inLine, Option.some.injEq, Prod.mk.injEq] at found
  rw [← found.1]
  exact parseFileHeader_of_cutName _ plain

end UniversalAirdrop
