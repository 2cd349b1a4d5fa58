/-
# Kernel.Library -- the server over the library's own parser and serializer

`Env` leaves `json::parse` and `dump` open.  Here they are those of `json.hpp`, with the
values of the one model turned into those of the other.

* `toValue_toJson` -- what was parsed, told to the handlers and dumped, is the value as a
  text gives it back;
* `reparsed` -- so `DataHandler::udp_broadcast`, which parses again what
  `UdpBroadcastHandler` dumped, finds what the datagram said;
* `messages_arrive` -- from the handler that builds a message to the peer that parses it,
  through frames, chunks, texts and tokens.
-/
import GameServer.Kernel.Completion
import GameServer.Wire.Framing
import GameServer.Nlohmann.RoundTrip
import Mathlib.Data.List.Forall2

namespace GameServer.Nlohmann

set_option autoImplicit false

open Wire Theory

/-- A library's floating-point numbers, and the decimals they are told as. -/
structure Decimals (F : Type) extends Floats F where
  toDecimal : F → Int × Int
  ofDecimal : Int × Int → F

variable {F : Type} (floats : Decimals F)

mutual

/-- A value, as the handlers read it.  Values come of a parse: their strings are UTF-8, and
a number that is not finite is none of them. -/
def Value.toJson : Value F → Json
  | .null => .null
  | .boolean value => .bool value
  | .numberInteger x => .number x.toInt
  | .numberUnsigned x => .number x.toNat
  | .numberFloat x =>
      if floats.isFinite x then .decimal (floats.toDecimal x).1 (floats.toDecimal x).2 else .null
  | .string text => .str ((Utf8.decode text).getD "")
  | .array items => .arr (itemsJson items)
  | .object members => .obj (membersJson members)

def itemsJson : List (Value F) → List Json
  | [] => []
  | item :: items => item.toJson :: itemsJson items

def membersJson : List (Bytes × Value F) → List (String × Json)
  | [] => []
  | (key, value) :: members => ((Utf8.decode key).getD "", value.toJson) :: membersJson members

end

mutual

/-- What the handlers give to `dump`.  An object is a `std::map`: its members are put in
order, and of two with one key the first stays. -/
def toValue : Json → Value F
  | .null => .null
  | .bool value => .boolean value
  | .number n =>
      if n < 0 then .numberInteger (Int64.ofInt n) else .numberUnsigned (UInt64.ofNat n.toNat)
  | .decimal mantissa exponent => .numberFloat (floats.ofDecimal (mantissa, exponent))
  | .str text => .string (Utf8.encode text)
  | .arr items => .array (itemsValue items)
  | .obj fields => .object (SortedMap.gather (fieldsValue fields))

def itemsValue : List Json → List (Value F)
  | [] => []
  | item :: items => toValue item :: itemsValue items

def fieldsValue : List (String × Json) → List (Bytes × Value F)
  | [] => []
  | (key, value) :: fields => (Utf8.encode key, toValue value) :: fieldsValue fields

end

/-- The decimals of the finite numbers say which number each is. -/
def Decimals.Faithful : Prop :=
  ∀ x, floats.isFinite x = true → floats.ofDecimal (floats.toDecimal x) = x

variable {floats}

theorem encode_decode {text : Bytes} (valid : Utf8.Valid text) :
    Utf8.encode ((Utf8.decode text).getD "") = text := by
  obtain ⟨read, decoded⟩ := Utf8.valid_iff_decodes.mp valid
  rw [decoded, Option.getD_some]
  exact Utf8.decode_eq_some_iff.mp decoded

mutual

/-- **What was parsed, told to the handlers and dumped** is the value as its text gives it
back. -/
theorem toValue_toJson (faithful : floats.Faithful) (value : Value F) (utf8 : value.Utf8)
    (ordered : value.Ordered) : toValue floats (value.toJson floats) = value.settled floats.toFloats := by
  cases value with
  | null | boolean => rfl
  | numberInteger x =>
      rw [Value.toJson, toValue, Value.settled]
      by_cases negative : x < 0
      · have below : x.toInt < 0 := Int64.lt_iff_toInt_lt.mp negative
        rw [if_pos negative, if_pos below, Int64.ofInt_toInt]
      · have above : ¬ x.toInt < 0 := fun below => negative (Int64.lt_iff_toInt_lt.mpr below)
        have same : x.toInt.toNat = x.toUInt64.toNat := by
          rw [toNat_toUInt64 negative]
          omega
        rw [if_neg negative, if_neg above, same, UInt64.ofNat_toNat]
  | numberUnsigned x =>
      rw [Value.toJson, toValue, if_neg (by omega), Int.toNat_natCast, UInt64.ofNat_toNat]
      rfl
  | numberFloat x =>
      rw [Value.toJson, Value.settled]
      by_cases finite : floats.isFinite x = true
      · rw [if_pos finite, if_pos finite, toValue, faithful x finite]
      · rw [if_neg finite, if_neg finite, toValue]
  | string text =>
      rw [Value.toJson, toValue, encode_decode utf8]
      rfl
  | array items =>
      rw [Value.toJson, toValue, itemsValue_itemsJson faithful items utf8 ordered]
      rfl
  | object members =>
      rw [Value.toJson, toValue, fieldsValue_membersJson faithful members utf8 ordered.2,
        SortedMap.gather_sorted (membersSettled_sorted ordered.1)]
      rfl

theorem itemsValue_itemsJson (faithful : floats.Faithful) (items : List (Value F))
    (utf8 : itemsUtf8 items) (ordered : itemsOrdered items) :
    itemsValue floats (itemsJson floats items) = itemsSettled floats.toFloats items := by
  cases items with
  | nil => rfl
  | cons item items =>
      rw [itemsJson, itemsValue, toValue_toJson faithful item utf8.1 ordered.1,
        itemsValue_itemsJson faithful items utf8.2 ordered.2]
      rfl

theorem fieldsValue_membersJson (faithful : floats.Faithful) (members : List (Bytes × Value F))
    (utf8 : membersUtf8 members) (ordered : membersOrdered members) :
    fieldsValue floats (membersJson floats members) = membersSettled floats.toFloats members := by
  cases members with
  | nil => rfl
  | cons member members =>
      rw [membersJson, fieldsValue, encode_decode utf8.1,
        toValue_toJson faithful member.2 utf8.2.1 ordered.1,
        fieldsValue_membersJson faithful members utf8.2.2 ordered.2]
      rfl

end

mutual

/-- Handlers see no difference between a value and what its text gives back. -/
theorem toJson_settled (value : Value F) :
    (value.settled floats.toFloats).toJson floats = value.toJson floats := by
  cases value with
  | null | boolean | numberUnsigned | string => rfl
  | numberInteger x =>
      rw [Value.settled]
      split_ifs with negative
      · rfl
      · have above : 0 ≤ x.toInt := Int64.le_iff_toInt_le.mp (Int64.not_lt.mp negative)
        rw [Value.toJson, Value.toJson, toNat_toUInt64 negative]
        congr 1
        omega
  | numberFloat x =>
      rw [Value.settled]
      split_ifs with finite
      · rfl
      · rw [Value.toJson, Value.toJson, if_neg finite]
  | array items => rw [Value.settled, Value.toJson, Value.toJson, itemsJson_settled items]
  | object members => rw [Value.settled, Value.toJson, Value.toJson, membersJson_settled members]

theorem itemsJson_settled (items : List (Value F)) :
    itemsJson floats (itemsSettled floats.toFloats items) = itemsJson floats items := by
  cases items with
  | nil => rfl
  | cons item items =>
      rw [itemsSettled, itemsJson, itemsJson, toJson_settled item, itemsJson_settled items]

theorem membersJson_settled (members : List (Bytes × Value F)) :
    membersJson floats (membersSettled floats.toFloats members) = membersJson floats members := by
  cases members with
  | nil => rfl
  | cons member members =>
      rw [membersSettled, membersJson, membersJson, toJson_settled member.2,
        membersJson_settled members]

end

/-! ## What handlers send -/

theorem itemsOrdered_iff {items : List (Value F)} :
    itemsOrdered items ↔ ∀ item ∈ items, item.Ordered := by
  induction items with
  | nil => simp [itemsOrdered]
  | cons item items ih => rw [itemsOrdered, ih, List.forall_mem_cons]

mutual

/-- Whatever a handler builds can be dumped, and is read back. -/
theorem toValue_wellFormed (j : Json) : (toValue floats j).Utf8 ∧ (toValue floats j).Ordered := by
  cases j with
  | null | bool | decimal => exact ⟨trivial, trivial⟩
  | number n =>
      rw [toValue]
      split <;> exact ⟨trivial, trivial⟩
  | str text => exact ⟨Utf8.encode_valid text, trivial⟩
  | arr items =>
      have fine := itemsValue_wellFormed items
      exact ⟨itemsUtf8_iff.mpr fun item member => (fine item member).1,
        itemsOrdered_iff.mpr fun item member => (fine item member).2⟩
  | obj fields =>
      have fine := @SortedMap.forall_gather Bytes (Value F) _ Utf8.Valid
        (fun value => value.Utf8 ∧ value.Ordered) _ (fieldsValue_wellFormed fields)
      exact ⟨membersUtf8_iff.mpr fun member inside =>
          ⟨(fine member inside).1, (fine member inside).2.1⟩,
        SortedMap.sorted_gather _,
        membersOrdered_iff.mpr fun member inside => (fine member inside).2.2⟩

theorem itemsValue_wellFormed (items : List Json) :
    ∀ item ∈ itemsValue floats items, item.Utf8 ∧ item.Ordered := by
  cases items with
  | nil => exact List.forall_mem_nil _
  | cons item items =>
      exact List.forall_mem_cons.mpr ⟨toValue_wellFormed item, itemsValue_wellFormed items⟩

theorem fieldsValue_wellFormed (fields : List (String × Json)) :
    ∀ member ∈ fieldsValue floats fields,
      Utf8.Valid member.1 ∧ member.2.Utf8 ∧ member.2.Ordered := by
  cases fields with
  | nil => exact List.forall_mem_nil _
  | cons field fields =>
      exact List.forall_mem_cons.mpr
        ⟨⟨Utf8.encode_valid field.1, toValue_wellFormed field.2⟩, fieldsValue_wellFormed fields⟩

end

end GameServer.Nlohmann

namespace GameServer.Kernel

open Wire Nlohmann Theory Theory.Incremental

variable {F : Type}

namespace Library

/-- `json::parse`, for the handlers. -/
def parse (floats : Decimals F) (msg : Bytes) : Option Json :=
  match Nlohmann.parse floats.toFloats msg with
  | .ok value => some (value.toJson floats)
  | .error _ => none

/-- `json::parse` throws `out_of_range`. -/
def outOfRange (floats : Decimals F) (msg : Bytes) : Bool :=
  match Nlohmann.parse floats.toFloats msg with
  | .error .outOfRange => true
  | _ => false

/-- `dump`, of what a handler built. -/
def dump (floats : Decimals F) (j : Json) : String :=
  match Nlohmann.dump floats.toFloats (toValue floats j) with
  | .ok text => (Utf8.decode text).getD ""
  | .error _ => ""

end Library

/-- The server's environment, with the library's parser and serializer. -/
def libraryEnv (floats : Decimals F) (config : Config) (pid : Nat) : Env where
  config := config
  parse := Library.parse floats
  outOfRange := Library.outOfRange floats
  dump := Library.dump floats
  pid := pid

namespace Library

variable {floats : Decimals F}

theorem parse_some {msg : Bytes} {j : Json} (parsed : parse floats msg = some j) :
    ∃ value, Nlohmann.parse floats.toFloats msg = .ok value ∧ j = value.toJson floats := by
  rw [parse] at parsed
  split at parsed
  · rename_i value read
    cases parsed
    exact ⟨value, read, rfl⟩
  · cases parsed

theorem parse_ok {msg : Bytes} {value : Value F}
    (read : Nlohmann.parse floats.toFloats msg = .ok value) :
    parse floats msg = some (value.toJson floats) := by
  rw [parse, read]

/-- What the server sends is the text of what the handler built: `dump` does not throw. -/
theorem utf8_dump (exact : floats.toFloats.Exact) (j : Json) :
    utf8 (dump floats j) = (toValue floats j).written floats.toFloats := by
  have fine := (@toValue_wellFormed F floats j).1
  rw [dump, dump_utf8 fine, utf8, Utf8.toUTF8_toList]
  exact encode_decode (clean_written exact _ fine).valid

/-- **What is dumped and parsed again is what it was**: so it goes with a broadcast over UDP,
whose handler dumps what was received, and `udp_broadcast` parses that. -/
theorem reparsed (exact : floats.toFloats.Exact) (faithful : floats.Faithful) {msg : Bytes}
    {j : Json} (parsed : parse floats msg = some j) :
    parse floats (utf8 (dump floats j)) = some j := by
  obtain ⟨value, read, rfl⟩ := parse_some parsed
  obtain ⟨utf8, ordered⟩ := parse_wellFormed read
  have back := parse_written exact utf8 ordered
  rw [utf8_dump exact, toValue_toJson faithful value utf8 ordered, written_settled, parse_ok back,
    toJson_settled]

/-! ## What the other side reads -/

/-- A message as whoever parses it reads it. -/
def carried (floats : Decimals F) (j : Json) : Json :=
  ((toValue floats j).settled floats.toFloats).toJson floats

theorem parse_carried (exact : floats.toFloats.Exact) (j : Json) :
    parse floats (utf8 (dump floats j)) = some (carried floats j) := by
  obtain ⟨utf8, ordered⟩ := @toValue_wellFormed F floats j
  rw [utf8_dump exact, parse_ok (parse_written exact utf8 ordered)]
  rfl

theorem decode_eq_iff {text : Bytes} (valid : Utf8.Valid text) (key : String) :
    (Utf8.decode text).getD "" = key ↔ text = Utf8.encode key := by
  constructor
  · rintro rfl
    exact (encode_decode valid).symm
  · rintro rfl
    rw [Utf8.decode_encode, Option.getD_some]

theorem lookup_membersJson {members : List (Bytes × Value F)}
    (keys : ∀ member ∈ members, Utf8.Valid member.1) (key : String) :
    Json.lookup (membersJson floats members) key =
      (SortedMap.lookup (Utf8.encode key) members).map (Value.toJson floats) := by
  induction members with
  | nil => rfl
  | cons member members ih =>
      obtain ⟨first, others⟩ := List.forall_mem_cons.mp keys
      have rest := ih others
      rw [Json.lookup] at rest
      rw [membersJson, Json.lookup, List.find?_cons, SortedMap.lookup_cons]
      simp only [decode_eq_iff first]
      by_cases same : member.1 = Utf8.encode key
      · simp [same]
      · simp only [same, decide_false, if_false]
        exact rest

theorem lookup_membersSettled (members : List (Bytes × Value F)) (key : Bytes) :
    SortedMap.lookup key (membersSettled floats.toFloats members) =
      (SortedMap.lookup key members).map (Value.settled floats.toFloats) := by
  induction members with
  | nil => rfl
  | cons member members ih =>
      rw [membersSettled, SortedMap.lookup_cons, SortedMap.lookup_cons, ih]
      split <;> rfl

theorem find_fieldsValue (fields : List (String × Json)) (key : String) :
    ((fieldsValue floats fields).find? fun entry => entry.1 = Utf8.encode key).map Prod.snd =
      (Json.lookup fields key).map (toValue floats) := by
  induction fields with
  | nil => rfl
  | cons field fields ih =>
      rw [Json.lookup] at ih ⊢
      rw [fieldsValue, List.find?_cons, List.find?_cons]
      by_cases same : field.1 = key
      · simp [same]
      · have other : Utf8.encode field.1 ≠ Utf8.encode key := fun equal =>
          same (Utf8.encode_injective equal)
        simp only [other, same, decide_false]
        exact ih

/-- Under each key stands what the handler put there. -/
theorem lookup_carried (fields : List (String × Json)) :
    ∃ fields', carried floats (.obj fields) = .obj fields' ∧
      ∀ key, Json.lookup fields' key = (Json.lookup fields key).map (carried floats) := by
  have keys : ∀ member ∈ membersSettled floats.toFloats
      (SortedMap.gather (fieldsValue floats fields)), Utf8.Valid member.1 := by
    intro member inside
    have named := List.mem_map_of_mem (f := Prod.fst) inside
    rw [membersSettled_keys] at named
    obtain ⟨member', inside', same⟩ := List.mem_map.mp named
    rw [← same]
    exact (membersUtf8_iff.mp (@toValue_wellFormed F floats (.obj fields)).1 member' inside').1
  refine ⟨_, rfl, fun key => ?_⟩
  rw [lookup_membersJson keys, lookup_membersSettled, SortedMap.lookup_gather, find_fieldsValue,
    Option.map_map, Option.map_map]
  rfl

@[simp] theorem carried_str (text : String) : carried floats (.str text) = .str text := by
  change Json.str ((Utf8.decode (Utf8.encode text)).getD "") = _
  rw [Utf8.decode_encode, Option.getD_some]

/-- Neither a text nor an object. -/
def plain : Json → Bool
  | .str _ | .obj _ => false
  | .null | .bool _ | .number _ | .decimal _ _ | .arr _ => true

theorem carried_plain {j : Json} (other : plain j = true) : plain (carried floats j) = true := by
  rw [carried, toJson_settled]
  cases j with
  | str | obj => cases other
  | number n =>
      rw [toValue]
      split <;> rfl
  | decimal mantissa exponent =>
      rw [toValue, Value.toJson]
      split <;> rfl
  | null | bool | arr => rfl

theorem valueStr_plain {j : Json} (other : plain j = true) (key default : String) :
    j.valueStr key default = .error .type := by
  cases j with
  | str | obj => cases other
  | null | bool | number | decimal | arr => rfl

/-- `value(key, default)` of a member. -/
def memberStr (default : String) : Option Json → Except JsonError String
  | none => .ok default
  | some (.str text) => .ok text
  | some _ => .error .type

theorem valueStr_obj (fields : List (String × Json)) (key default : String) :
    (Json.obj fields).valueStr key default = memberStr default (Json.lookup fields key) := by
  rw [Json.valueStr]
  rfl

theorem memberStr_plain {j : Json} (other : plain j = true) (default : String) :
    memberStr default (some j) = .error .type := by
  cases j with
  | str | obj => cases other
  | null | bool | number | decimal | arr => rfl

theorem memberStr_carried (default : String) (member : Option Json) :
    memberStr default (member.map (carried floats)) = memberStr default member := by
  cases member with
  | none => rfl
  | some value =>
      rw [Option.map_some]
      cases value with
      | str text => rw [carried_str]
      | obj fields =>
          obtain ⟨fields', same, -⟩ := @lookup_carried F floats fields
          rw [same]
          rfl
      | null | bool | number | decimal | arr =>
          rw [memberStr_plain (carried_plain rfl), memberStr_plain rfl]

/-- `value(key, default)` on the other side is what it was here. -/
theorem valueStr_carried (j : Json) (key default : String) :
    (carried floats j).valueStr key default = j.valueStr key default := by
  cases j with
  | str text => rw [carried_str]
  | obj fields =>
      obtain ⟨fields', same, found⟩ := @lookup_carried F floats fields
      rw [same, valueStr_obj, valueStr_obj, found, memberStr_carried]
  | null | bool | number | decimal | arr =>
      rw [valueStr_plain (carried_plain rfl), valueStr_plain rfl]

theorem utf8_append (text text' : String) : utf8 (text ++ text') = utf8 text ++ utf8 text' := by
  rw [utf8, utf8, utf8, Utf8.toUTF8_toList, Utf8.toUTF8_toList, Utf8.toUTF8_toList, Utf8.encode,
    String.toByteArray_append, ByteArray.toList_data_append]
  rfl

theorem utf8_break : utf8 "\n" = [0x0A] := by
  rw [utf8, Utf8.toUTF8_toList]
  rfl

/-- The line break behind a message is white space to whoever parses it. -/
theorem parse_line (exact : floats.toFloats.Exact) (j : Json) :
    parse floats (utf8 (dump floats j ++ "\n")) = some (carried floats j) := by
  obtain ⟨utf8, ordered⟩ := @toValue_wellFormed F floats j
  have blank : Blank [0x0A] := List.forall_mem_singleton.mpr rfl
  rw [utf8_append, utf8_break, utf8_dump exact, parse_ok (parse_written_blank exact utf8 ordered blank)]
  rfl

/-- The bytes `do_write_queue` puts on the connection for these messages. -/
def stream (floats : Decimals F) (messages : List Json) : Bytes :=
  (messages.map fun j => Sender.session.frame (utf8 (dump floats j ++ "\n"))).flatten

/-- **From handler to handler**: however the connection cuts the bytes of messages sent one
after another, a peer that takes them out with a `MessageBufferManager` and parses each finds
all of them, in order, and in each the texts that were put in it. -/
theorem messages_arrive (exact : floats.toFloats.Exact) (messages : List Json)
    (sizes : ∀ j ∈ messages, (utf8 (dump floats j ++ "\n")).length ≤ maxPacketSize)
    (chunks : List Bytes) (cut : chunks.flatten = stream floats messages) :
    ∃ arrived : List Json, (receive {} chunks).messages.map (parse floats) = arrived.map some ∧
      List.Forall₂ (fun j j' : Json => ∀ key default,
        j'.valueStr key default = j.valueStr key default) messages arrived := by
  have framed : stream floats messages =
      ((messages.map fun j => utf8 (dump floats j ++ "\n")).map Sender.session.frame).flatten := by
    rw [List.map_map]
    rfl
  have sized : ∀ payload ∈ messages.map fun j => utf8 (dump floats j ++ "\n"),
      MessageBufferManager.Plausible payload.length := by
    intro payload member
    obtain ⟨j, inside, rfl⟩ := List.mem_map.mp member
    refine ⟨?_, sizes j inside⟩
    rw [utf8_append, utf8_break, List.length_append]
    exact Nat.succ_pos _
  have extracted : (receive {} chunks).messages = messages.map fun j => utf8 (dump floats j ++ "\n") := by
    obtain ⟨same, -⟩ := receive_eq_feed {} chunks rfl
    rw [feed_eq_drain MessageBufferManager.attempt_lawful MessageBufferManager.attempt_lawful.nil,
      List.nil_append, cut, framed, drain_frames .session _ sized] at same
    exact (Prod.mk.inj same).1
  refine ⟨messages.map (carried floats), ?_, ?_⟩
  · rw [extracted, List.map_map, List.map_map]
    exact congrArg (messages.map ·) (funext fun j => parse_line exact j)
  · rw [List.forall₂_map_right_iff, List.forall₂_same]
    exact fun j _ => valueStr_carried j

/-! ## A library with one number -/

/-- A half, as a decimal. -/
def half : Decimals Unit where
  toFloats := halfFloats
  toDecimal _ := (5, -1)
  ofDecimal _ := ()

theorem half_faithful : half.Faithful := fun _ _ => rfl

/-- A broadcast, with a line break and quotes in it. -/
def shouted : Json :=
  .obj [("type", .str "broadcast_udp"), ("msg", .str "\"hi\"\n"), ("nickname", .str "김"),
    ("loud", .decimal 5 (-1)), ("times", .number (-3))]

theorem reparsed_broadcast :
    parse half (utf8 (dump half (carried half shouted))) = some (carried half shouted) :=
  reparsed half_exact half_faithful (parse_carried half_exact shouted)

theorem messages_arrive_twice : ∃ arrived : List Json,
    (receive {} [(stream half [shouted, .null]).take 7, (stream half [shouted, .null]).drop 7]).messages.map
        (parse half) = arrived.map some ∧
      List.Forall₂ (fun j j' : Json => ∀ key default,
        j'.valueStr key default = j.valueStr key default) [shouted, .null] arrived := by
  refine messages_arrive half_exact [shouted, .null] ?_ _ ?_
  · intro j member
    rw [utf8_append, utf8_break, utf8_dump half_exact]
    rcases List.mem_cons.mp member with rfl | member
    · decide
    · rcases List.mem_singleton.mp member with rfl
      decide
  · simp

end Library

end GameServer.Kernel
