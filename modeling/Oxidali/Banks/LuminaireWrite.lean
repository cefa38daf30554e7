import Oxidali.Lib.Words

/-!
# Writing a text of the luminaire bank

A text ends at its terminator or at the end of its region.  It is written in three
stages, the first of which empties it and the last of which shows it, and every stage in
units of a few bytes.
-/

namespace Oxidali.Banks

open Words List

def textTerminator : Byte := 0

inductive LuminaireTextField where
  | luminaireColour
  | luminaireIdentification
  | lightDistribution
  | oemName
  | customerStockingNumber
  | freeUse
deriving DecidableEq

inductive FieldKind where
  | layoutId
  | number
  | text (field : LuminaireTextField)
deriving DecidableEq

structure TextRegion where
  offset : Nat
  len : Nat

structure LuminaireField where
  name : String
  offset : Nat
  len : Nat
  kind : FieldKind
deriving DecidableEq

def luminaireFields : List LuminaireField :=
  [⟨"content_format_id", 0x11, 2, .layoutId⟩,
    ⟨"year", 0x13, 1, .number⟩,
    ⟨"week", 0x14, 1, .number⟩,
    ⟨"nominal_input_power_w", 0x15, 2, .number⟩,
    ⟨"power_at_minimum_w", 0x17, 2, .number⟩,
    ⟨"nominal_min_ac_voltage_v", 0x19, 2, .number⟩,
    ⟨"nominal_max_ac_voltage_v", 0x1B, 2, .number⟩,
    ⟨"nominal_light_output_lm", 0x1D, 3, .number⟩,
    ⟨"cri", 0x20, 1, .number⟩,
    ⟨"cct_kelvin", 0x21, 2, .number⟩,
    ⟨"light_distribution_type", 0x23, 1, .number⟩,
    ⟨"luminaire_colour", 0x24, 24, .text .luminaireColour⟩,
    ⟨"luminaire_identification", 0x3C, 60, .text .luminaireIdentification⟩,
    ⟨"light_distribution", 0x78, 24, .text .lightDistribution⟩,
    ⟨"oem_name", 0x90, 32, .text .oemName⟩,
    ⟨"customer_stocking_number", 0xB0, 16, .text .customerStockingNumber⟩,
    ⟨"lamp_current_ma", 0xC0, 2, .number⟩,
    ⟨"free_use", 0xC2, 8, .text .freeUse⟩]

namespace LuminaireField

def ofText (which : LuminaireTextField) : Option LuminaireField :=
  luminaireFields.find? fun field => field.kind = .text which

variable (field : LuminaireField)

def isText : Bool :=
  match field.kind with
  | .text _ => true
  | _ => false

def region : TextRegion := ⟨field.offset, field.len⟩

def acceptsText (text : List Byte) : Bool :=
  field.isText && text.length <= field.len
    && text.all fun byte => 0x20 <= byte.toNat && byte.toNat <= 0x7E

end LuminaireField

def textBytes (bank : List Byte) (region : TextRegion) : Option (List Byte) :=
  if region.offset + region.len <= bank.length then
    some (((bank.drop region.offset).take region.len).takeWhile (· ≠ textTerminator))
  else none

/-! ## The stages and their units -/

structure WriteStage where
  field : LuminaireField
  offset : Nat
  bytes : List Byte

structure FieldWrite where
  field : LuminaireField
  bytes : List Byte

def FieldWrite.stages (write : FieldWrite) : List WriteStage :=
  let start := write.field.offset
  match write.field.kind, write.bytes with
  | .text _, head :: next :: rest =>
      [⟨write.field, start, [textTerminator]⟩, ⟨write.field, start + 1, next :: rest⟩,
        ⟨write.field, start, [head]⟩]
  | _, bytes => [⟨write.field, start, bytes⟩]

def textWrite (which : LuminaireTextField) (text : List Byte) : Option FieldWrite :=
  (LuminaireField.ofText which).map fun field =>
    let bytes := if text.length < field.len then text ++ [textTerminator] else text
    { field, bytes := bytes.take field.len }

def unitBytes : Nat := 3

structure WriteUnit where
  subject : String
  offset : Nat
  bytes : List Byte

/-- `chunks(UNIT_BYTES)`. -/
def chunks : List Byte -> List (List Byte)
  | first :: second :: third :: rest => [first, second, third] :: chunks rest
  | [] => []
  | rest => [rest]

def unitOffset (stageOffset index : Nat) : Nat :=
  min (stageOffset + index * unitBytes) 255

variable (stage : WriteStage)

def stageUnits : List WriteUnit :=
  (chunks stage.bytes).zipIdx.map fun chunk =>
    ⟨stage.field.name, unitOffset stage.offset chunk.2, chunk.1⟩

def units (stages : List WriteStage) : List WriteUnit := stages.flatMap stageUnits

/-- The bytes of a unit go to consecutive locations. -/
def locations (units : List WriteUnit) : List (Byte × Nat) :=
  units.flatMap fun unit => unit.bytes.zipIdx unit.offset

def store (bank : List Byte) (write : Byte × Nat) : List Byte :=
  bank.set write.2 write.1

/-! ## The locations written -/

variable {field : LuminaireField} {which : LuminaireTextField} {bank text : List Byte}

theorem locations_chunks (bytes : List Byte) (index : Nat)
    (h : stage.offset + index * unitBytes + bytes.length <= 256) :
    locations (((chunks bytes).zipIdx index).map fun chunk =>
      ⟨stage.field.name, unitOffset stage.offset chunk.2, chunk.1⟩) =
      bytes.zipIdx (stage.offset + index * unitBytes) := by
  induction bytes using chunks.induct generalizing index with
  | case1 first second third rest ih =>
    have hnext : stage.offset + (index + 1) * unitBytes =
        stage.offset + index * unitBytes + 1 + 1 + 1 := by
      simp only [unitBytes]
      omega
    have hhere : unitOffset stage.offset index = stage.offset + index * unitBytes := by
      simp only [length_cons] at h
      exact Nat.min_eq_left (by omega)
    have hrest := ih (index + 1) (by simp only [length_cons] at h; omega)
    rw [hnext] at hrest
    rw [chunks, zipIdx_cons, map_cons, locations, flatMap_cons, <- locations, hrest, hhere]
    rfl
  | case2 => rfl
  | case3 rest hlong hne =>
    have hhere : unitOffset stage.offset index = stage.offset + index * unitBytes := by
      have hpos := length_pos_iff.mpr hne
      exact Nat.min_eq_left (by omega)
    rw [chunks.eq_3 rest hlong hne]
    simp [locations, hhere]

theorem locations_stage (h : stage.offset + stage.bytes.length <= 256) :
    locations (stageUnits stage) = stage.bytes.zipIdx stage.offset := by
  have hall := locations_chunks stage stage.bytes 0 (by simpa using h)
  simpa [stageUnits] using hall

theorem locations_stages (hkind : field.kind = .text which) {head : Byte} {tail : List Byte}
    (hne : tail ≠ []) (h : field.offset + (head :: tail).length <= 256) :
    locations (units (FieldWrite.stages ⟨field, head :: tail⟩)) =
      (textTerminator, field.offset) :: (tail.zipIdx (field.offset + 1)
        ++ [(head, field.offset)]) := by
  obtain ⟨next, rest, rfl⟩ := exists_cons_of_ne_nil hne
  simp only [length_cons] at h
  have hempty := locations_stage ⟨field, field.offset, [textTerminator]⟩
    (by simp only [length_singleton]; omega)
  have htail := locations_stage ⟨field, field.offset + 1, next :: rest⟩
    (by simp only [length_cons]; omega)
  have hhead := locations_stage ⟨field, field.offset, [head]⟩
    (by simp only [length_singleton]; omega)
  simp only [locations] at hempty htail hhead
  simp [FieldWrite.stages, hkind, locations, units, hempty, htail, hhead]

/-! ## What a cut leaves in the region -/

theorem length_foldl_store (writes : List (Byte × Nat)) (bank : List Byte) :
    (writes.foldl store bank).length = bank.length :=
  foldlRecOn (motive := (length · = bank.length)) writes _ rfl fun _ h _ _ => length_set.trans h

theorem foldl_store_elsewhere {writes : List (Byte × Nat)} {place : Nat}
    (h : forall write, write ∈ writes -> write.2 ≠ place) (bank : List Byte) :
    (writes.foldl store bank)[place]? = bank[place]? := by
  refine foldlRecOn (motive := fun next : List Byte => next[place]? = bank[place]?) _ _ rfl ?_
  exact fun next hnext write hwrite => (getElem?_set_ne (h write hwrite)).trans hnext

theorem foldl_store_zipIdx (bytes : List Byte) : forall (front old back : List Byte),
    old.length = bytes.length -> (bytes.zipIdx front.length).foldl store (front ++ old ++ back) =
      front ++ bytes ++ back := by
  induction bytes with
  | nil =>
    intro front old back hlength
    rw [length_eq_zero_iff.mp hlength]
    rfl
  | cons byte bytes ih =>
    intro front old back hlength
    obtain ⟨first, old, rfl⟩ := exists_cons_of_length_eq_add_one hlength
    have hrest := ih (front ++ [byte]) old back (by simpa using hlength)
    simpa [store] using hrest

theorem textBytes_emptied (hlong : 1 < field.len) (hbank : field.offset + field.len <= bank.length)
    {writes : List (Byte × Nat)} (h : forall write, write ∈ writes -> write.2 ≠ field.offset) :
    textBytes (((textTerminator, field.offset) :: writes).foldl store bank) field.region =
      some [] := by
  have hstart := (foldl_store_elsewhere h (store bank (textTerminator, field.offset))).trans
    (getElem?_set_self (by omega))
  obtain ⟨hlt, hbyte⟩ := List.getElem?_eq_some_iff.mp hstart
  have hlength : field.offset + field.len <=
      (writes.foldl store (store bank (textTerminator, field.offset))).length := by
    simpa [length_foldl_store, store] using hbank
  rw [foldl_cons, textBytes, LuminaireField.region, if_pos hlength,
    drop_eq_getElem_cons hlt, hbyte, take_cons (Nat.lt_of_succ_lt hlong)]
  simp

theorem textBytes_shown {front bytes back : List Byte} (hfront : front.length = field.offset)
    (hlength : bytes.length <= field.len)
    (hbank : field.offset + field.len <= (front ++ bytes ++ back).length)
    (htext : forall byte, byte ∈ text -> decide (byte ≠ textTerminator))
    (hbytes : bytes = text ++ [textTerminator] ∨ bytes = text ∧ text.length = field.len) :
    textBytes (front ++ bytes ++ back) field.region = some text := by
  rw [textBytes, LuminaireField.region, if_pos hbank, append_assoc, <- hfront,
    drop_left, take_append, take_of_length_le hlength]
  rcases hbytes with rfl | ⟨rfl, hfull⟩
  · rw [append_assoc, takeWhile_append_of_pos htext]
    simp
  · rw [hfull, Nat.sub_self, take_zero, append_nil, takeWhile_eq_self_iff.mpr htext]

theorem textBytes_written {head : Byte} {tail : List Byte}
    (hlength : (head :: tail).length <= field.len) (hbank : field.offset + field.len <= bank.length)
    (htext : forall byte, byte ∈ text -> decide (byte ≠ textTerminator))
    (hbytes : head :: tail = text ++ [textTerminator] ∨
      head :: tail = text ∧ text.length = field.len) :
    textBytes (((textTerminator, field.offset) ::
      (tail.zipIdx (field.offset + 1) ++ [(head, field.offset)])).foldl store bank)
      field.region = some text := by
  have hfront : (bank.take field.offset).length = field.offset :=
    length_take_of_le (by omega)
  have hrun := foldl_store_zipIdx (textTerminator :: tail) (bank.take field.offset)
    ((bank.drop field.offset).take (head :: tail).length)
    ((bank.drop field.offset).drop (head :: tail).length)
    (by simp only [length_take, length_drop, length_cons] at *; omega)
  rw [append_assoc, take_append_drop, take_append_drop, hfront, zipIdx_cons] at hrun
  rw [<- cons_append, foldl_append, hrun]
  have hlast : [(head, field.offset)].foldl store (bank.take field.offset
      ++ textTerminator :: tail ++ (bank.drop field.offset).drop (head :: tail).length) =
      bank.take field.offset ++ head :: tail
        ++ (bank.drop field.offset).drop (head :: tail).length := by
    simp [store, hfront]
  rw [hlast]
  refine textBytes_shown hfront hlength ?_ htext hbytes
  rw [<- hlast, <- hrun, length_foldl_store, length_foldl_store]
  exact hbank

theorem text_field (hfield : field ∈ luminaireFields) (hkind : field.kind = .text which) :
    LuminaireField.ofText which = some field ∧ 1 < field.len ∧ field.offset + field.len <= 256 := by
  have hall : luminaireFields.all (fun field => match field.kind with
      | .text which => LuminaireField.ofText which = some field && 1 < field.len
          && field.offset + field.len <= 256
      | _ => true) := by decide
  have hone := all_eq_true.mp hall field hfield
  simpa [hkind, and_assoc] using hone

theorem textWrite_bytes (hof : LuminaireField.ofText which = some field)
    (hfits : text.length <= field.len) : exists bytes,
    textWrite which text = some ⟨field, bytes⟩ ∧ bytes.length <= field.len ∧
    (bytes = text ++ [textTerminator] ∨ bytes = text ∧ text.length = field.len) := by
  by_cases hshort : text.length < field.len
  · have hlength : (text ++ [textTerminator]).length <= field.len := by
      simpa using Nat.succ_le_of_lt hshort
    refine ⟨_, ?_, hlength, .inl rfl⟩
    simp only [textWrite, hof, Option.map_some, if_pos hshort, take_of_length_le hlength]
  · refine ⟨text, ?_, hfits, .inr ⟨rfl, by omega⟩⟩
    simp only [textWrite, hof, Option.map_some, if_neg hshort, take_of_length_le hfits]

/-- A text is never read mixed: wherever the writing stops the field reads back as the text
it held, as the empty text or as the new text, and at the end as the new text. -/
theorem text_never_mixed (hfield : field ∈ luminaireFields) (hkind : field.kind = .text which)
    (hbank : field.offset + field.len <= bank.length) (htext : field.acceptsText text = true) :
    exists write, textWrite which text = some write ∧
      (forall cut, cut <+: locations (units write.stages) ->
        textBytes (cut.foldl store bank) field.region = textBytes bank field.region ∨
        textBytes (cut.foldl store bank) field.region = some [] ∨
        textBytes (cut.foldl store bank) field.region = some text) ∧
      textBytes ((locations (units write.stages)).foldl store bank) field.region = some text := by
  obtain ⟨hof, hlong, hend⟩ := text_field hfield hkind
  simp only [LuminaireField.acceptsText, Bool.and_eq_true, decide_eq_true_eq, all_eq_true] at htext
  obtain ⟨⟨_, hfits⟩, hprintable⟩ := htext
  obtain ⟨bytes, hwrite, hlength, hbytes⟩ := textWrite_bytes hof hfits
  refine ⟨_, hwrite, ?_⟩
  have hshown : forall byte, byte ∈ text -> decide (byte ≠ textTerminator) = true := by
    intro byte hbyte
    have hlow := (hprintable byte hbyte).1
    apply decide_eq_true
    rintro rfl
    exact absurd hlow (by decide)
  cases text with
  | nil =>
    obtain rfl : bytes = [textTerminator] := by
      rcases hbytes with hbytes | ⟨_, hfull⟩
      · exact hbytes
      · exact absurd hfull (by simp only [length_nil]; omega)
    have hall := locations_stage ⟨field, field.offset, [textTerminator]⟩
      (by simp only [length_singleton]; omega)
    have hlocations : locations (units (FieldWrite.stages ⟨field, [textTerminator]⟩)) =
        [(textTerminator, field.offset)] := by
      simpa [FieldWrite.stages, hkind, units] using hall
    have hempty : textBytes ([(textTerminator, field.offset)].foldl store bank)
        field.region = some [] :=
      textBytes_emptied hlong hbank nofun
    rw [hlocations]
    refine ⟨fun cut hcut => ?_, hempty⟩
    rcases prefix_cons_iff.mp hcut with rfl | ⟨rest, rfl, hrest⟩
    · exact .inl rfl
    · rw [prefix_nil.mp hrest]
      exact .inr (.inl hempty)
  | cons head rest =>
    obtain ⟨tail, rfl, htail⟩ : exists tail, bytes = head :: tail ∧ tail ≠ [] := by
      rcases hbytes with rfl | ⟨rfl, hfull⟩
      · exact ⟨_, rfl, by simp⟩
      · refine ⟨_, rfl, ?_⟩
        rintro rfl
        exact absurd hfull (by simp only [length_singleton]; omega)
    rw [locations_stages hkind htail (by omega)]
    have hlast : textBytes (((textTerminator, field.offset) ::
        (tail.zipIdx (field.offset + 1) ++ [(head, field.offset)])).foldl store bank)
        field.region = some (head :: rest) := by
      exact textBytes_written hlength hbank hshown hbytes
    refine ⟨fun cut hcut => ?_, hlast⟩
    rcases prefix_cons_iff.mp hcut with rfl | ⟨writes, rfl, hwrites⟩
    · exact .inl rfl
    · rcases prefix_concat_iff.mp hwrites with rfl | hpart
      · exact .inr (.inr hlast)
      · refine .inr (.inl (textBytes_emptied hlong hbank fun write hin => ?_))
        have hafter := le_snd_of_mem_zipIdx (hpart.subset hin)
        omega

theorem colour_text_written :
    exists write, textWrite .luminaireColour [0x41, 0x42] = some write ∧
      textBytes ((locations (units write.stages)).foldl store (replicate 60 0x2A))
        ⟨0x24, 24⟩ = some [0x41, 0x42] := by
  have hfield : ⟨"luminaire_colour", 0x24, 24, .text .luminaireColour⟩ ∈ luminaireFields := by
    decide
  have hbank : 0x24 + 24 <= (replicate 60 (0x2A : Byte)).length := by decide
  obtain ⟨write, hwrite, _, hlast⟩ := text_never_mixed hfield rfl hbank
    (by decide : LuminaireField.acceptsText _ [0x41, 0x42] = true)
  exact ⟨write, hwrite, hlast⟩

end Oxidali.Banks
