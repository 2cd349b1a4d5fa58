/-
# Nlohmann.Dump -- what `dump` writes

The text of a value is told here without the serializer's decoder and buffers.

* `dump_dumps` -- the serializer writes the text of a value whose strings are all UTF-8,
  and throws for every other value.
-/
import GameServer.Nlohmann.Numbers

namespace GameServer.Nlohmann

set_option autoImplicit false

open Wire (Bytes)
open Theory Theory.Utf8

section Written

variable {F : Type} (floats : Floats F)

mutual

/-- All strings and keys are UTF-8. -/
def Value.Utf8 : Value F → Prop
  | .string text => Valid text
  | .array items => itemsUtf8 items
  | .object members => membersUtf8 members
  | .null | .boolean _ | .numberInteger _ | .numberUnsigned _ | .numberFloat _ => True

def itemsUtf8 : List (Value F) → Prop
  | [] => True
  | item :: items => item.Utf8 ∧ itemsUtf8 items

def membersUtf8 : List (Bytes × Value F) → Prop
  | [] => True
  | (key, value) :: members => Valid key ∧ value.Utf8 ∧ membersUtf8 members

end

mutual

/-- Every object's members stand in the order of their keys, each key once. -/
def Value.Ordered : Value F → Prop
  | .array items => itemsOrdered items
  | .object members => SortedMap.Sorted members ∧ membersOrdered members
  | .null | .boolean _ | .numberInteger _ | .numberUnsigned _ | .numberFloat _ | .string _ => True

def itemsOrdered : List (Value F) → Prop
  | [] => True
  | item :: items => item.Ordered ∧ itemsOrdered items

def membersOrdered : List (Bytes × Value F) → Prop
  | [] => True
  | (_, value) :: members => value.Ordered ∧ membersOrdered members

end

def quoted (s : Bytes) : Bytes := 0x22 :: escaped s ++ [0x22]

mutual

/-- The text of a value. -/
def Value.written : Value F → Bytes
  | .null => [0x6E, 0x75, 0x6C, 0x6C]
  | .boolean true => [0x74, 0x72, 0x75, 0x65]
  | .boolean false => [0x66, 0x61, 0x6C, 0x73, 0x65]
  | .numberInteger x => (if x < 0 then [0x2D] else []) ++ numeral x.toInt.natAbs
  | .numberUnsigned x => numeral x.toNat
  | .numberFloat x => dumpFloat floats x
  | .string text => quoted text
  | .array [] => [0x5B, 0x5D]
  | .array (item :: items) => 0x5B :: (item.written ++ moreItemsWritten items)
  | .object [] => [0x7B, 0x7D]
  | .object ((key, value) :: members) =>
      0x7B :: (quoted key ++ 0x3A :: (value.written ++ moreMembersWritten members))

def moreItemsWritten : List (Value F) → Bytes
  | [] => [0x5D]
  | item :: items => 0x2C :: (item.written ++ moreItemsWritten items)

def moreMembersWritten : List (Bytes × Value F) → Bytes
  | [] => [0x7D]
  | (key, value) :: members =>
      0x2C :: (quoted key ++ 0x3A :: (value.written ++ moreMembersWritten members))

end

/-- A result that is this text when these strings are UTF-8, and the throw for them
when they are not. -/
def Dumps (result : Except DumpError Bytes) (fine : Prop) (text : Bytes) : Prop :=
  (fine ∧ result = .ok text) ∨ (¬ fine ∧ result = .error .typeError)

variable {floats}

theorem dumps_ok (text : Bytes) : Dumps (.ok text) True text := .inl ⟨trivial, rfl⟩

theorem dumps_follow {first second : Except DumpError Bytes} {fine fine' : Prop}
    {text text' : Bytes} (one : Dumps first fine text) (other : Dumps second fine' text') :
    Dumps (follow first second) (fine ∧ fine') (text ++ text') := by
  rcases one with ⟨good, rfl⟩ | ⟨bad, rfl⟩
  · rcases other with ⟨good', rfl⟩ | ⟨bad', rfl⟩
    · exact .inl ⟨⟨good, good'⟩, rfl⟩
    · exact .inr ⟨fun both => bad' both.2, rfl⟩
  · rcases other with ⟨-, rfl⟩ | ⟨-, rfl⟩ <;> exact .inr ⟨fun both => bad both.1, rfl⟩

theorem dumps_congr {result : Except DumpError Bytes} {fine fine' : Prop} {text text' : Bytes}
    (dumped : Dumps result fine text) (same : fine ↔ fine') (same' : text = text') :
    Dumps result fine' text' := by
  subst same'
  rwa [Dumps, ← same]

theorem dumpQuoted_dumps (s : Bytes) : Dumps (dumpQuoted s) (Valid s) (quoted s) := by
  by_cases valid : Valid s
  · exact .inl ⟨valid, by rw [dumpQuoted, dumpEscaped_valid valid]; rfl⟩
  · exact .inr ⟨valid, by rw [dumpQuoted, dumpEscaped_invalid valid]⟩

/-- A member, or an item, in front of the others. -/
theorem dumps_member {fine fine' : Prop} {result rest : Except DumpError Bytes}
    {text text' : Bytes} (mark : UInt8) (key : Bytes) (one : Dumps result fine text)
    (others : Dumps rest fine' text') :
    Dumps (follow (.ok [mark]) (follow (dumpQuoted key) (follow (.ok [0x3A]) (follow result rest))))
      (Valid key ∧ fine ∧ fine') (mark :: (quoted key ++ 0x3A :: (text ++ text'))) :=
  dumps_congr (dumps_follow (dumps_ok [mark]) (dumps_follow (dumpQuoted_dumps key)
    (dumps_follow (dumps_ok [0x3A]) (dumps_follow one others)))) (by simp only [true_and]) rfl

theorem dumps_item {fine fine' : Prop} {result rest : Except DumpError Bytes}
    {text text' : Bytes} (mark : UInt8) (one : Dumps result fine text)
    (others : Dumps rest fine' text') :
    Dumps (follow (.ok [mark]) (follow result rest)) (fine ∧ fine') (mark :: (text ++ text')) :=
  dumps_congr (dumps_follow (dumps_ok [mark]) (dumps_follow one others))
    (iff_of_eq (true_and _)) rfl

mutual

/-- **What `dump` does**: it writes the text of a value whose strings are UTF-8, and throws for
any other. -/
theorem dump_dumps (value : Value F) :
    Dumps (dump floats value) value.Utf8 (value.written floats) := by
  cases value with
  | null => exact dumps_ok _
  | boolean flag => cases flag <;> exact dumps_ok _
  | numberInteger x =>
      refine .inl ⟨trivial, ?_⟩
      rw [Value.written]
      split_ifs with negative
      · exact dumpInteger_negative rfl negative
      · exact dumpInteger_natural rfl negative
  | numberUnsigned x => exact .inl ⟨trivial, dumpUnsigned_eq freshBuffer rfl x⟩
  | numberFloat x => exact dumps_ok _
  | string text => exact dumpQuoted_dumps text
  | array items =>
      cases items with
      | nil => exact dumps_ok _
      | cons item items => exact dumps_item 0x5B (dump_dumps item) (dumpItems_dumps items)
  | object members =>
      cases members with
      | nil => exact dumps_ok _
      | cons member members =>
          exact dumps_member 0x7B member.1 (dump_dumps member.2) (dumpMembers_dumps members)

theorem dumpItems_dumps (items : List (Value F)) :
    Dumps (dumpItems floats items) (itemsUtf8 items) (moreItemsWritten floats items) := by
  cases items with
  | nil => exact dumps_ok _
  | cons item items => exact dumps_item 0x2C (dump_dumps item) (dumpItems_dumps items)

theorem dumpMembers_dumps (members : List (Bytes × Value F)) :
    Dumps (dumpMembers floats members) (membersUtf8 members)
      (moreMembersWritten floats members) := by
  cases members with
  | nil => exact dumps_ok _
  | cons member members =>
      exact dumps_member 0x2C member.1 (dump_dumps member.2) (dumpMembers_dumps members)

end

end Written

end GameServer.Nlohmann
