/-
This file proves which texts the parsers of the protocol accept, and how the
accepted texts relate to what the serializers write.

A parser splits a text into fields and converts two of them. The accepted text
is the one that would be written for the parsed message exactly when nothing
follows the magic word in its field, both numerals are plain, and no further
field follows the last one that is read.
-/

import UniversalAirdrop.Protocol

namespace UniversalAirdrop

open Streams Numeral

/-! ### The fields of a text -/

/-- Nothing follows the magic word in its field, the type and the number are plain numerals, and
there are no more separators than the fields need. -/
structure Tidy (raw typeStr number : Bytes) (separators : ℕ) : Prop where
  word : magic ++ [fieldDelim] <+: raw
  type : Plain typeStr
  number : Plain number
  fields : raw.count fieldDelim = separators

/-- The field that the magic word is looked for in. -/
theorem magicField_iff {word rest : Bytes} (absent : fieldDelim ∉ word) :
    magic ++ [fieldDelim] <+: word ++ fieldDelim :: rest ↔ word = magic := by
  constructor
  · rintro ⟨more, same⟩
    rw [List.append_assoc, List.singleton_append] at same
    exact (((append_delim_inj notMem_magic absent).mp same).1).symm
  · rintro rfl
    exact ⟨rest, by simp⟩

/-- The last field ends the text exactly when no separator is left. -/
theorem count_last_iff {last field rest : Bytes}
    (read : getline fieldDelim last = some (field, rest)) :
    last.count fieldDelim = 0 ↔ last = field := by
  rw [List.count_eq_zero]
  obtain ⟨absent, rfl | ⟨rfl, -⟩⟩ := eq_of_getline_eq_some read
  · simp
  · simp [absent]

/-- A text whose header fields were read is made of these fields. -/
theorem fileHeaderFields_split {raw typeStr filename sizeStr : Bytes}
    (fields : fileHeaderFields raw = some (typeStr, filename, sizeStr)) :
    ∃ word last rest,
      raw = word ++ fieldDelim :: (typeStr ++ fieldDelim :: (filename ++ fieldDelim :: last)) ∧
      fieldDelim ∉ word ∧ fieldDelim ∉ typeStr ∧ fieldDelim ∉ filename ∧
      getline fieldDelim last = some (sizeStr, rest) := by
  simp only [fileHeaderFields, Option.bind_eq_bind, Option.bind_eq_some_iff] at fields
  obtain ⟨⟨word, first⟩, wordRead, ⟨type, second⟩, typeRead, ⟨name, third⟩, nameRead,
    ⟨size, rest⟩, sizeRead, same⟩ := fields
  cases same
  obtain ⟨noWord, rfl⟩ := eq_append_of_getline wordRead typeRead
  obtain ⟨noType, rfl⟩ := eq_append_of_getline typeRead nameRead
  obtain ⟨noName, rfl⟩ := eq_append_of_getline nameRead sizeRead
  exact ⟨word, third, rest, rfl, noWord, noType, noName, sizeRead⟩

/-- A text whose discovery fields were read is made of these fields. -/
theorem discoveryFields_split {raw typeStr name os portStr : Bytes}
    (fields : discoveryFields raw = some (typeStr, name, os, portStr)) :
    ∃ word last rest,
      raw = word ++ fieldDelim :: (typeStr ++ fieldDelim :: (name ++ fieldDelim ::
        (os ++ fieldDelim :: last))) ∧
      fieldDelim ∉ word ∧ fieldDelim ∉ typeStr ∧ fieldDelim ∉ name ∧ fieldDelim ∉ os ∧
      getline fieldDelim last = some (portStr, rest) := by
  simp only [discoveryFields, Option.bind_eq_bind, Option.bind_eq_some_iff] at fields
  obtain ⟨⟨word, first⟩, wordRead, ⟨type, second⟩, typeRead, ⟨device, third⟩, nameRead,
    ⟨system, fourth⟩, osRead, ⟨port, rest⟩, portRead, same⟩ := fields
  cases same
  obtain ⟨noWord, rfl⟩ := eq_append_of_getline wordRead typeRead
  obtain ⟨noType, rfl⟩ := eq_append_of_getline typeRead nameRead
  obtain ⟨noName, rfl⟩ := eq_append_of_getline nameRead osRead
  obtain ⟨noOs, rfl⟩ := eq_append_of_getline osRead portRead
  exact ⟨word, fourth, rest, rfl, noWord, noType, noName, noOs, portRead⟩

/-! ### Which accepted texts are what would be written -/

/-- A plain type field that converts to a type is written as that type. -/
theorem decimal_code_eq_iff {typeStr : Bytes} {type : MsgType}
    (converts : stoi typeStr = .ok type.code) :
    decimal type.code = typeStr ↔ Plain typeStr := by
  constructor
  · intro same
    rw [← same]
    exact plain_decimal _
  · intro plain
    rw [(eq_decimal_of_stoi converts plain).2, Int.toNat_natCast]

/-- A size field that converts to a size is written as that size when it is plain. -/
theorem decimal_size_eq_iff {sizeStr : Bytes} {size : UInt64}
    (converts : stoull sizeStr = .ok size) : decimal size.toNat = sizeStr ↔ Plain sizeStr := by
  constructor
  · intro same
    rw [← same]
    exact plain_decimal _
  · exact fun plain => (eq_decimal_of_stoull converts plain).symm

/-- A port field that converts to a number is written as the port it is cast to when it is plain
and the cast keeps the number. -/
theorem decimal_port_eq_iff {portStr : Bytes} {port : ℤ} (converts : stoi portStr = .ok port) :
    decimal (UInt16.ofInt port).toNat = portStr ↔ Plain portStr ∧ port < 2 ^ 16 := by
  constructor
  · intro same
    have small : (UInt16.ofInt port).toNat < 2 ^ 16 := (UInt16.ofInt port).toNat_lt
    rw [← same, stoi_decimal (by omega), Except.ok.injEq] at converts
    rw [← same, ← converts]
    exact ⟨plain_decimal _, by omega⟩
  · rintro ⟨plain, small⟩
    obtain ⟨nonnegative, written⟩ := eq_decimal_of_stoi converts plain
    have kept : (UInt16.ofInt port).toNat = port.toNat := by
      rw [UInt16.ofInt, UInt16.toNat_ofNat_of_lt']
      · omega
      · show (port % 2 ^ 16).toNat < 2 ^ 16
        omega
    rw [kept, ← written]

/-- A last field that is written as `number` is all of what is left. -/
theorem eq_last_iff {last field rest number : Bytes} (absent : fieldDelim ∉ number)
    (read : getline fieldDelim last = some (field, rest)) :
    number = last ↔ number = field ∧ last.count fieldDelim = 0 := by
  rw [count_last_iff read]
  constructor
  · rintro rfl
    have alone := (count_last_iff read).mp (List.count_eq_zero.mpr absent)
    exact ⟨alone, alone⟩
  · rintro ⟨rfl, rfl⟩
    rfl

/-- The header read from a text is written as that text exactly when the text is tidy. -/
theorem headerLine_eq_iff {raw typeStr sizeStr : Bytes} {header : FileHeader}
    (fields : fileHeaderFields raw = some (typeStr, header.filename, sizeStr))
    (typeRead : stoi typeStr = .ok header.type.code)
    (sizeRead : stoull sizeStr = .ok header.size) :
    headerLine header = raw ↔ Tidy raw typeStr sizeStr 3 := by
  obtain ⟨word, last, rest, rfl, noWord, noType, noName, lastRead⟩ := fileHeaderFields_split fields
  have line : headerLine header = magic ++ fieldDelim :: (decimal header.type.code ++
      fieldDelim :: (header.filename ++ fieldDelim :: decimal header.size.toNat)) := by
    simp [headerLine]
  have separators : (word ++ fieldDelim :: (typeStr ++ fieldDelim :: (header.filename ++
      fieldDelim :: last))).count fieldDelim = last.count fieldDelim + 3 := by
    simp [List.count_append, List.count_eq_zero.mpr noWord, List.count_eq_zero.mpr noType,
      List.count_eq_zero.mpr noName]
  rw [line, append_delim_inj notMem_magic noWord,
    append_delim_inj (fieldDelim_notMem_decimal _) noType, append_delim_inj noName noName,
    eq_last_iff (fieldDelim_notMem_decimal _) lastRead, decimal_code_eq_iff typeRead,
    decimal_size_eq_iff sizeRead]
  constructor
  · rintro ⟨same, type, -, size, alone⟩
    exact ⟨(magicField_iff noWord).mpr same.symm, type, size, by rw [separators, alone]⟩
  · rintro ⟨same, type, size, count⟩
    rw [separators] at count
    exact ⟨((magicField_iff noWord).mp same).symm, type, rfl, size, by omega⟩

/-- The announcement read from a text is written as that text exactly when the text is tidy and
the port field holds a port. -/
theorem serializeDiscovery_eq_iff {raw typeStr portStr : Bytes} {port : ℤ} {info : DeviceInfo}
    (fields : discoveryFields raw = some (typeStr, info.name, info.os, portStr))
    (typeRead : stoi typeStr = .ok MsgType.discovery.code) (portRead : stoi portStr = .ok port)
    (tcpPort : info.tcpPort = UInt16.ofInt port) :
    serializeDiscovery info = raw ↔ Tidy raw typeStr portStr 4 ∧ port < 2 ^ 16 := by
  obtain ⟨word, last, rest, rfl, noWord, noType, noName, noOs, lastRead⟩ :=
    discoveryFields_split fields
  have line : serializeDiscovery info = magic ++ fieldDelim :: (decimal MsgType.discovery.code ++
      fieldDelim :: (info.name ++ fieldDelim :: (info.os ++
        fieldDelim :: decimal info.tcpPort.toNat))) := by
    simp [serializeDiscovery]
  have separators : (word ++ fieldDelim :: (typeStr ++ fieldDelim :: (info.name ++
      fieldDelim :: (info.os ++ fieldDelim :: last)))).count fieldDelim =
        last.count fieldDelim + 4 := by
    simp [List.count_append, List.count_eq_zero.mpr noWord, List.count_eq_zero.mpr noType,
      List.count_eq_zero.mpr noName, List.count_eq_zero.mpr noOs]
  rw [line, append_delim_inj notMem_magic noWord,
    append_delim_inj (fieldDelim_notMem_decimal _) noType, append_delim_inj noName noName,
    append_delim_inj noOs noOs, eq_last_iff (fieldDelim_notMem_decimal _) lastRead,
    decimal_code_eq_iff typeRead, tcpPort, decimal_port_eq_iff portRead]
  constructor
  · rintro ⟨same, type, -, -, ⟨plain, small⟩, alone⟩
    exact ⟨⟨(magicField_iff noWord).mpr same.symm, type, plain, by rw [separators, alone]⟩, small⟩
  · rintro ⟨⟨same, type, plain, count⟩, small⟩
    rw [separators] at count
    exact ⟨((magicField_iff noWord).mp same).symm, type, rfl, rfl, ⟨plain, small⟩, by omega⟩

/-! ### Writing what was parsed -/

/-- What a parser accepts is exactly what would be written for the message it returns. -/
def Canonical (raw : Bytes) : Prop :=
  (∀ header, parseFileHeader raw = .ok (some header) →
    serializeFileHeader header = raw ++ [headerDelim]) ∧
  ∀ info, parseDiscovery raw = .ok (some info) → serializeDiscovery info = raw

/-- A text whose fields convert as those of a file header is tidy. -/
def HeaderTidy (raw : Bytes) : Prop :=
  ∀ typeStr filename sizeStr size, magic <+: raw →
    fileHeaderFields raw = some (typeStr, filename, sizeStr) →
    (stoi typeStr = .ok MsgType.fileHeader.code ∨
      stoi typeStr = .ok MsgType.fileHeaderEncrypted.code) →
    stoull sizeStr = .ok size → Tidy raw typeStr sizeStr 3

/-- A text whose fields convert as those of an announcement is tidy, and the port is one. -/
def DiscoveryTidy (raw : Bytes) : Prop :=
  ∀ typeStr name os portStr port, magic <+: raw →
    discoveryFields raw = some (typeStr, name, os, portStr) →
    stoi typeStr = .ok MsgType.discovery.code → stoi portStr = .ok port →
    Tidy raw typeStr portStr 4 ∧ port < 2 ^ 16

theorem headerTidy_iff (raw : Bytes) :
    HeaderTidy raw ↔ ∀ header, parseFileHeader raw = .ok (some header) →
      serializeFileHeader header = raw ++ [headerDelim] := by
  constructor
  · intro tidy header accepted
    obtain ⟨starts, typeStr, sizeStr, fields, typeRead, sizeRead⟩ :=
      parseFileHeader_eq_some_iff.mp accepted
    have isHeader : stoi typeStr = .ok MsgType.fileHeader.code ∨
        stoi typeStr = .ok MsgType.fileHeaderEncrypted.code := by
      rw [typeRead, FileHeader.type]
      cases header.encrypted
      · exact Or.inl rfl
      · exact Or.inr rfl
    rw [serializeFileHeader, (headerLine_eq_iff fields typeRead sizeRead).mpr
      (tidy _ _ _ _ starts fields isHeader sizeRead)]
  · intro written typeStr filename sizeStr size starts fields isHeader sizeRead
    obtain ⟨encrypted, typeRead⟩ : ∃ encrypted,
        stoi typeStr = .ok (FileHeader.type ⟨filename, size, encrypted⟩).code := by
      obtain plain | encrypted := isHeader
      · exact ⟨false, plain⟩
      · exact ⟨true, encrypted⟩
    have accepted := parseFileHeader_eq_some_iff.mpr
      ⟨starts, typeStr, sizeStr, fields, typeRead, sizeRead⟩
    have same := written _ accepted
    rw [serializeFileHeader, List.append_cancel_right_eq] at same
    exact (headerLine_eq_iff fields typeRead sizeRead).mp same

theorem discoveryTidy_iff (raw : Bytes) :
    DiscoveryTidy raw ↔ ∀ info, parseDiscovery raw = .ok (some info) →
      serializeDiscovery info = raw := by
  constructor
  · intro tidy info accepted
    obtain ⟨starts, typeStr, portStr, port, fields, typeRead, portRead, tcpPort, -⟩ :=
      parseDiscovery_eq_some_iff.mp accepted
    exact (serializeDiscovery_eq_iff fields typeRead portRead tcpPort).mpr
      (tidy _ _ _ _ _ starts fields typeRead portRead)
  · intro written typeStr name os portStr port starts fields typeRead portRead
    have accepted : parseDiscovery raw = .ok (some ⟨name, os, UInt16.ofInt port, []⟩) :=
      parseDiscovery_eq_some_iff.mpr
        ⟨starts, typeStr, portStr, port, fields, typeRead, portRead, rfl, rfl⟩
    exact (@serializeDiscovery_eq_iff raw typeStr portStr port ⟨name, os, UInt16.ofInt port, []⟩
      fields typeRead portRead rfl).mp (written _ accepted)

/-- The accepted texts are what would be written exactly when the texts that convert are tidy. -/
theorem canonical_iff_tidy (raw : Bytes) : Canonical raw ↔ HeaderTidy raw ∧ DiscoveryTidy raw := by
  rw [headerTidy_iff, discoveryTidy_iff]
  rfl

/-- A negative size is read modulo `2 ^ 64`. -/
theorem not_canonical_negativeSize : ¬ Canonical (ascii "UAIRDROP:2:a:-1") := by
  intro canonical
  have written := canonical.1 ⟨ascii "a", 18446744073709551615, false⟩ (by decide +kernel)
  revert written
  decide +kernel

/-- An announcement parses back to what was announced, when no colon stands in the name or in the
system. -/
theorem parseDiscovery_serializeDiscovery {info : DeviceInfo} (plainName : fieldDelim ∉ info.name)
    (plainOs : fieldDelim ∉ info.os) :
    parseDiscovery (serializeDiscovery info) = .ok (some { info with ip := [] }) := by
  have line : serializeDiscovery info = magic ++ fieldDelim :: (decimal MsgType.discovery.code ++
      fieldDelim :: (info.name ++ fieldDelim :: (info.os ++
        fieldDelim :: decimal info.tcpPort.toNat))) := by
    simp [serializeDiscovery]
  have fields : discoveryFields (serializeDiscovery info) = some (decimal MsgType.discovery.code,
      info.name, info.os, decimal info.tcpPort.toNat) := by
    rw [line, discoveryFields, getline_append_delim notMem_magic]
    simp only [Option.bind_eq_bind, Option.bind_some,
      getline_append_delim (fieldDelim_notMem_decimal _), getline_append_delim plainName,
      getline_append_delim plainOs,
      getline_of_notMem (fieldDelim_notMem_decimal _) (decimal_ne_nil _)]
    rfl
  have small : info.tcpPort.toNat < 2 ^ 16 := info.tcpPort.toNat_lt
  refine parseDiscovery_eq_some_iff.mpr ⟨?_, _, _, info.tcpPort.toNat, fields, stoi_code _,
    stoi_decimal (by omega), ?_, rfl⟩
  · rw [line]
    exact List.prefix_append _ _
  · have kept : ((info.tcpPort.toNat : ℤ) % 2 ^ 16).toNat = info.tcpPort.toNat := by omega
    rw [UInt16.ofInt, kept, UInt16.ofNat_toNat]

/-- A serialized header, cut at its first newline, parses back to the header exactly when neither
a colon nor a newline stands in the filename. -/
theorem serializeFileHeader_roundTrip_iff (header : FileHeader) :
    (∃ line rest, cut headerDelim (serializeFileHeader header) = some (line, rest) ∧
        parseFileHeader line = .ok (some header)) ↔
      fieldDelim ∉ header.filename ∧ headerDelim ∉ header.filename := by
  constructor
  · rintro ⟨line, rest, found, parsed⟩
    have noColon := fieldDelim_notMem_filename parsed
    refine ⟨noColon, fun newline => ?_⟩
    rw [← List.append_nil (serializeFileHeader header)] at found
    rw [parseFileHeader_of_newline noColon newline found] at parsed
    cases parsed
  · rintro ⟨noColon, noNewline⟩
    have found := cut_serializeFileHeader header noNewline []
    rw [List.append_nil] at found
    exact ⟨_, _, found, parseFileHeader_headerLine header noColon⟩

end UniversalAirdrop
