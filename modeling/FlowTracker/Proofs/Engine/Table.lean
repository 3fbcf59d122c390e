import FlowTracker.FlowTable
import Std.Data.HashMap.Lemmas

/-!
# Reading the flow table

A table is known by four readings: its capacity, the record in each slot (`recordAt`), whether each
payload lock is held (`heldAt`) and the slot that each conversation is bound to (`lookup`).  The lemmas
say what each reading answers after each change.
-/

namespace FlowTracker.FlowTable

variable (table : FlowTable)

/-- The record in a slot; `none` also where there is no slot. -/
def recordAt (flow : FlowId) : Option FlowRecord := table.slots[flow]?.bind Slot.record

def heldAt (flow : FlowId) : Bool := table.slots[flow]?.any Slot.held

/-! ### Changes of a slot -/

@[simp] theorem capacity_setRecord (flow : FlowId) (record : Option FlowRecord) :
    (table.setRecord flow record).capacity = table.capacity := Array.size_modify ..

@[simp] theorem capacity_setHeld (flow : FlowId) (held : Bool) :
    (table.setHeld flow held).capacity = table.capacity := Array.size_modify ..

@[simp] theorem lookup_setRecord (flow : FlowId) (record : Option FlowRecord) (key : FlowKey) :
    (table.setRecord flow record).lookup key = table.lookup key := rfl

@[simp] theorem lookup_setHeld (flow : FlowId) (held : Bool) (key : FlowKey) :
    (table.setHeld flow held).lookup key = table.lookup key := rfl

theorem recordAt_setRecord {flow : FlowId} (hlt : flow < table.capacity)
    (record : Option FlowRecord) (flow' : FlowId) :
    (table.setRecord flow record).recordAt flow'
      = if flow' = flow then record else table.recordAt flow' := by
  unfold recordAt setRecord
  simp only [Array.getElem?_modify]
  by_cases hflow : flow' = flow
  · subst hflow
    rw [if_pos rfl, if_pos rfl, Array.getElem?_eq_getElem hlt]
    rfl
  · rw [if_neg fun h => hflow h.symm, if_neg hflow]

@[simp] theorem recordAt_setHeld (flow : FlowId) (held : Bool) (flow' : FlowId) :
    (table.setHeld flow held).recordAt flow' = table.recordAt flow' := by
  unfold recordAt setHeld
  simp only [Array.getElem?_modify]
  split
  · cases table.slots[flow']? <;> rfl
  · rfl

theorem heldAt_setHeld {flow : FlowId} (hlt : flow < table.capacity) (held : Bool)
    (flow' : FlowId) :
    (table.setHeld flow held).heldAt flow' = if flow' = flow then held else table.heldAt flow' := by
  unfold heldAt setHeld
  simp only [Array.getElem?_modify]
  by_cases hflow : flow' = flow
  · subst hflow
    rw [if_pos rfl, if_pos rfl, Array.getElem?_eq_getElem hlt]
    rfl
  · rw [if_neg fun h => hflow h.symm, if_neg hflow]

@[simp] theorem heldAt_setRecord (flow : FlowId) (record : Option FlowRecord) (flow' : FlowId) :
    (table.setRecord flow record).heldAt flow' = table.heldAt flow' := by
  unfold heldAt setRecord
  simp only [Array.getElem?_modify]
  split
  · cases table.slots[flow']? <;> rfl
  · rfl

/-! ### Changes of a binding -/

@[simp] theorem capacity_insert (key : FlowKey) (flow : FlowId) :
    (table.insert key flow).capacity = table.capacity := rfl

@[simp] theorem recordAt_insert (key : FlowKey) (flow flow' : FlowId) :
    (table.insert key flow).recordAt flow' = table.recordAt flow' := rfl

@[simp] theorem heldAt_insert (key : FlowKey) (flow flow' : FlowId) :
    (table.insert key flow).heldAt flow' = table.heldAt flow' := rfl

theorem lookup_insert (key : FlowKey) (flow : FlowId) (key' : FlowKey) :
    (table.insert key flow).lookup key' = if key' = key then some flow else table.lookup key' := by
  unfold lookup insert
  simp only [Std.HashMap.getElem?_insert, beq_iff_eq, @eq_comm _ key]

@[simp] theorem capacity_unbind (key : FlowKey) (flow : FlowId) :
    (table.unbind key flow).capacity = table.capacity := by
  unfold unbind
  split <;> rfl

@[simp] theorem recordAt_unbind (key : FlowKey) (flow flow' : FlowId) :
    (table.unbind key flow).recordAt flow' = table.recordAt flow' := by
  unfold unbind
  split <;> rfl

@[simp] theorem heldAt_unbind (key : FlowKey) (flow flow' : FlowId) :
    (table.unbind key flow).heldAt flow' = table.heldAt flow' := by
  unfold unbind
  split <;> rfl

/-- Unbinding a conversation from the slot that it is bound to. -/
theorem lookup_unbind {key : FlowKey} {flow : FlowId} (hbound : table.lookup key = some flow)
    (key' : FlowKey) :
    (table.unbind key flow).lookup key' = if key' = key then none else table.lookup key' := by
  have hisBound : table.isBound key flow = true := by
    rw [isBound, hbound, beq_self_eq_true]
  unfold unbind
  rw [if_pos hisBound]
  unfold lookup
  simp only [Std.HashMap.getElem?_erase, beq_iff_eq, @eq_comm _ key]

/-! ### Slots and records -/

variable {table}

theorem slot_of_lt {flow : FlowId} (hlt : flow < table.capacity) :
    table.slot flow = .ok ⟨table.recordAt flow, table.heldAt flow⟩ := by
  unfold slot recordAt heldAt
  rw [Array.getElem?_eq_getElem hlt]
  rfl

theorem lt_capacity_of_recordAt {flow : FlowId} {record : FlowRecord}
    (h : table.recordAt flow = some record) : flow < table.capacity := by
  rcases Nat.lt_or_ge flow table.capacity with hlt | hle
  · exact hlt
  · unfold recordAt at h
    rw [Array.getElem?_eq_none hle] at h
    cases h

theorem lt_capacity_of_heldAt {flow : FlowId} (h : table.heldAt flow = true) :
    flow < table.capacity := by
  rcases Nat.lt_or_ge flow table.capacity with hlt | hle
  · exact hlt
  · unfold heldAt at h
    rw [Array.getElem?_eq_none hle] at h
    cases h

end FlowTracker.FlowTable
