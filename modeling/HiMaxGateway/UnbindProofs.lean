import HiMaxGateway.Unbind

/-! What the deletion callback does to the devices it was not called for. -/
namespace HiMaxGateway
open CText

/-- The entries the branch for a device type goes through. -/
def DevLists.handled (lists : DevLists) : DevTp → List DeviceElement
  | .knx => selected knxSelect lists.pKnxDevList
  | .rs485 => selected modbusSelect lists.pMbusDevList
  | .usr1 => selected dioSelect lists.pDioDevList
  | .zigbee | .other _ => []

def DevLists.devices (lists : DevLists) : List DeviceElement :=
  (lists.pKnxDevList ++ lists.pMbusDevList ++ lists.pDioDevList).filterMap id

theorem unbindBound_calls {sdk : Sdk σ} (cloud : Cloud σ) (element : DeviceElement) (id : Text) :
    id ∈ (unbindBound sdk cloud element).calls ↔
      id ∈ cloud.calls ∨ sdk.Bound cloud.state id ∧ id = element.pPrimaryKey := by
  unfold unbindBound Sdk.Bound
  split
  · rename_i found
    simp only [List.mem_append, List.mem_singleton]
    constructor
    · rintro (old | rfl)
      · exact .inl old
      · exact .inr ⟨by simp [found], rfl⟩
    · rintro (old | ⟨-, same⟩)
      · exact .inl old
      · exact .inr same
  · rename_i unbound
    constructor
    · exact .inl
    · rintro (old | ⟨bound, rfl⟩)
      · exact old
      · simp [unbound] at bound

section

variable {σ : Type} {sdk : Sdk σ} (lawful : sdk.Lawful)

include lawful

theorem unbindBound_bound (cloud : Cloud σ) (element : DeviceElement) (id : Text) :
    sdk.Bound (unbindBound sdk cloud element).state id ↔
      sdk.Bound cloud.state id ∧ id ≠ element.pPrimaryKey := by
  unfold unbindBound
  split
  · exact lawful.unbind_bound _ _ _
  · rename_i unbound
    refine ⟨fun bound => ⟨bound, ?_⟩, And.left⟩
    rintro rfl
    simp [Sdk.Bound, unbound] at bound

/-- A pass over a list unbinds what it names. -/
theorem unbind_all_bound (entries : List DeviceElement) (cloud : Cloud σ) (id : Text) :
    sdk.Bound (entries.foldl (unbindBound sdk) cloud).state id ↔
      sdk.Bound cloud.state id ∧ ∀ element ∈ entries, id ≠ element.pPrimaryKey := by
  induction entries generalizing cloud with
  | nil => simp
  | cons element rest ih =>
    rw [List.foldl_cons, ih, unbindBound_bound lawful, List.forall_mem_cons, and_assoc]

theorem unbind_all_calls (entries : List DeviceElement) (cloud : Cloud σ) (id : Text) :
    id ∈ (entries.foldl (unbindBound sdk) cloud).calls ↔ id ∈ cloud.calls ∨
      sdk.Bound cloud.state id ∧ ∃ element ∈ entries, id = element.pPrimaryKey := by
  induction entries generalizing cloud with
  | nil => simp
  | cons element rest ih =>
    rw [List.foldl_cons, ih, unbindBound_calls, unbindBound_bound lawful]
    by_cases same : id = element.pPrimaryKey <;> simp [same]

/-- The three branches are passes over the handled entries. -/
theorem miscDevDelCb_bound (lists : DevLists) (found : sdk.descGet s d = some tp)
    {id : Text} (other : id ≠ d) (bound : sdk.Bound s id) :
    sdk.Bound (miscDevDelCb sdk lists d ⟨s, []⟩).state id ↔
      ∀ element ∈ lists.handled tp, id ≠ element.pPrimaryKey := by
  unfold miscDevDelCb
  rw [found]
  cases tp with
  | zigbee => simp [DevLists.handled, lawful.zigDel_keeps s d id other bound]
  | other code => simp [DevLists.handled, bound]
  | knx => exact (unbind_all_bound lawful _ _ id).trans (and_iff_right bound)
  | rs485 => exact (unbind_all_bound lawful _ _ id).trans (and_iff_right bound)
  | usr1 => exact (unbind_all_bound lawful _ _ id).trans (and_iff_right bound)

theorem miscDevDelCb_calls (lists : DevLists) (found : sdk.descGet s d = some tp) (id : Text) :
    id ∈ (miscDevDelCb sdk lists d ⟨s, []⟩).calls ↔
      sdk.Bound s id ∧ ∃ element ∈ lists.handled tp, id = element.pPrimaryKey := by
  have pass (entries : List DeviceElement) :
      id ∈ (entries.foldl (unbindBound sdk) ⟨s, []⟩).calls ↔
        sdk.Bound s id ∧ ∃ element ∈ entries, id = element.pPrimaryKey := by
    simpa only [List.not_mem_nil, false_or] using unbind_all_calls lawful entries ⟨s, []⟩ id
  unfold miscDevDelCb
  rw [found]
  cases tp with
  | zigbee => simp [DevLists.handled]
  | other code => simp [DevLists.handled]
  | knx => exact pass _
  | rs485 => exact pass _
  | usr1 => exact pass _

end

structure DeletesOnly (sdk : Sdk σ) (lists : DevLists) (s : σ) (d : Text) : Prop where
  calls : ∀ id ∈ (miscDevDelCb sdk lists d ⟨s, []⟩).calls, id = d
  others : ∀ element ∈ lists.devices, element.pPrimaryKey ≠ d → sdk.Bound s element.pPrimaryKey →
    sdk.Bound (miscDevDelCb sdk lists d ⟨s, []⟩).state element.pPrimaryKey

/-- Deleting `d` is confined to `d` exactly when no other entry of the list the
callback goes through is bound. -/
theorem deletes_only_iff {sdk : Sdk σ} (lawful : sdk.Lawful) (lists : DevLists) (s : σ) (d : Text)
    (found : sdk.descGet s d = some tp) :
    DeletesOnly sdk lists s d ↔ ∀ element ∈ lists.handled tp,
      sdk.Bound s element.pPrimaryKey → element.pPrimaryKey = d := by
  constructor
  · intro only element handled bound
    apply only.calls
    exact (miscDevDelCb_calls lawful lists found _).mpr ⟨bound, element, handled, rfl⟩
  · intro alone
    constructor
    · intro id called
      obtain ⟨bound, element, handled, rfl⟩ := (miscDevDelCb_calls lawful lists found id).mp called
      exact alone element handled bound
    · intro element mem other bound
      apply (miscDevDelCb_bound lawful lists found other bound).mpr
      intro entry handled same
      exact other (same.trans (alone entry handled (same ▸ bound)))

/-- An SDK whose state is the table of its descriptions. -/
def tableSdk : Sdk (Text → Option DevTp) where
  descGet table id := table id
  unbind table id := (0, fun other => if other = id then none else table other)
  zigDel table id := (0, fun other => if other = id then none else table other)

theorem tableSdk_lawful : tableSdk.Lawful := by
  constructor
  · intro table id other
    by_cases same : other = id <;> simp [Sdk.Bound, tableSdk, same]
  · intro table id other different bound
    simpa [Sdk.Bound, tableSdk, different] using bound

def lamp : DeviceElement := { szName := "lamp".toList, pPrimaryKey := "lamp".toList }
def blind : DeviceElement := { szName := "blind".toList, pPrimaryKey := "blind".toList }

def hall : DevLists := { pKnxDevList := [some lamp, some blind] }

theorem deletes_only_single :
    DeletesOnly tableSdk hall (fun id => if id = lamp.pPrimaryKey then some .knx else none)
      lamp.pPrimaryKey := by
  have found : tableSdk.descGet (fun id => if id = lamp.pPrimaryKey then some .knx else none)
      lamp.pPrimaryKey = some .knx := by decide
  exact (deletes_only_iff tableSdk_lawful hall _ _ found).mpr (by decide)

/-- With both bound, deleting the lamp unbinds the blind. -/
theorem lamp_deletes_blind :
    tableSdk.Lawful ∧ ¬ DeletesOnly tableSdk hall (fun _ => some .knx) lamp.pPrimaryKey := by
  refine ⟨tableSdk_lawful, ?_⟩
  intro only
  have called : blind.pPrimaryKey ∈
      (miscDevDelCb tableSdk hall lamp.pPrimaryKey ⟨fun _ => some .knx, []⟩).calls := by decide
  exact absurd (only.calls _ called) (by decide)

end HiMaxGateway
