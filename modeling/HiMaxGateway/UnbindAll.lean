import HiMaxGateway.Unbind

/-! The gateway is removed or reset: `_gw_active_status_changed_cb` and `_gw_reset_cb` unbind all
the sub-devices that the SDK knows. -/
namespace HiMaxGateway
open CText

/-- What the callbacks call, in order. -/
inductive GwCall where
  | unbind (id : Text)
  | queuePut
  | resetGw
  | businessMode
  deriving DecidableEq, Repr

section

variable {ι : Type} (traversal : ι → Option (Text × ι)) (ret : Nat → Int)

/-- The loop over `tuya_user_iot_misc_dev_traversal`, which gives a device and moves its iterator.
`ret n` is what the `n`-th call of `tuya_user_iot_misc_dev_unbind` returns. Where it fails,
`continue` skips the next step of the traversal. -/
def unbindLoop : (fuel n : Nat) → Option (Text × ι) → Option (List GwCall)
  | 0, _, _ => none
  | _ + 1, _, none => some []
  | fuel + 1, n, some (id, iter) =>
      let dev := if ret n = 0 then traversal iter else some (id, iter)
      (unbindLoop fuel (n + 1) dev).map (.unbind id :: ·)

def gwActiveStatusChangedCb (registered : Bool) (iter : ι) (fuel : Nat) : Option (List GwCall) :=
  if registered then some [.queuePut] else unbindLoop traversal ret fuel 0 (traversal iter)

def gwResetCb (iter : ι) (fuel : Nat) : Option (List GwCall) :=
  (unbindLoop traversal ret fuel 0 (traversal iter)).map (· ++ [.resetGw, .businessMode])

/-- The traversal gives these devices and ends. -/
inductive Enumerates : Option (Text × ι) → List Text → Prop where
  | nil : Enumerates none []
  | cons {id : Text} {iter : ι} {rest : List Text} (more : Enumerates (traversal iter) rest) :
      Enumerates (some (id, iter)) (id :: rest)

/-- Both callbacks end, with one attempt for each device. -/
structure UnbindsOnce (iter : ι) (devs : List Text) : Prop where
  removed : ∃ fuel, gwActiveStatusChangedCb traversal ret false iter fuel = some (devs.map .unbind)
  reset : ∃ fuel, gwResetCb traversal ret iter fuel =
    some (devs.map .unbind ++ [.resetGw, .businessMode])

end

section

variable {ι : Type} {traversal : ι → Option (Text × ι)} {ret : Nat → Int}

theorem unbindLoop_length {fuel n : Nat} {dev : Option (Text × ι)} {devs : List Text}
    {calls : List GwCall} (enumerated : Enumerates traversal dev devs)
    (ends : unbindLoop traversal ret fuel n dev = some calls) : devs.length ≤ calls.length := by
  induction fuel generalizing n dev devs calls with
  | zero => contradiction
  | succ fuel ih =>
    cases enumerated with
    | nil => exact Nat.zero_le _
    | cons more =>
      simp only [unbindLoop, Option.map_eq_some_iff] at ends
      obtain ⟨later, ends, rfl⟩ := ends
      split at ends
      · have shorter := ih more ends
        simpa using shorter
      · have again := ih (.cons more) ends
        exact Nat.le_succ_of_le again

/-- One attempt each leaves no room for a second try. -/
theorem ret_of_once {fuel n : Nat} {dev : Option (Text × ι)} {devs : List Text}
    (enumerated : Enumerates traversal dev devs)
    (once : unbindLoop traversal ret fuel n dev = some (devs.map .unbind)) :
    ∀ i < devs.length, ret (n + i) = 0 := by
  induction enumerated generalizing fuel n with
  | nil => simp
  | @cons id iter rest more ih =>
    cases fuel with
    | zero => contradiction
    | succ fuel =>
      simp only [unbindLoop, List.map_cons, Option.map_eq_some_iff, List.cons.injEq, true_and,
        exists_eq_right] at once
      split at once
      · rename_i done
        intro i bound
        cases i with
        | zero => exact done
        | succ i =>
          have later := ih once i (by simpa using bound)
          rwa [Nat.add_right_comm] at later
      · have again := unbindLoop_length (.cons more) once
        simp only [List.length_cons, List.length_map] at again
        omega

theorem once_of_ret {n : Nat} {dev : Option (Text × ι)} {devs : List Text}
    (enumerated : Enumerates traversal dev devs) (done : ∀ i < devs.length, ret (n + i) = 0) :
    unbindLoop traversal ret (devs.length + 1) n dev = some (devs.map .unbind) := by
  induction enumerated generalizing n with
  | nil => rfl
  | @cons id iter rest more ih =>
    have first : ret n = 0 := done 0 (by simp)
    have later : ∀ i < rest.length, ret (n + 1 + i) = 0 := by
      intro i bound
      have next := done (i + 1) (by simpa using bound)
      rwa [Nat.add_right_comm]
    simp only [List.length_cons, unbindLoop, if_pos first, ih later, Option.map_some, List.map_cons]

end

/-- Each device is tried once exactly when no call fails. -/
theorem unbinds_once_iff {ι : Type} (traversal : ι → Option (Text × ι)) (ret : Nat → Int) (iter : ι)
    (devs : List Text) (enumerated : Enumerates traversal (traversal iter) devs) :
    UnbindsOnce traversal ret iter devs ↔ ∀ i < devs.length, ret i = 0 := by
  constructor
  · rintro ⟨⟨fuel, once⟩, -⟩ i bound
    have done := ret_of_once enumerated once i bound
    rwa [Nat.zero_add] at done
  · intro done
    have once : unbindLoop traversal ret (devs.length + 1) 0 (traversal iter) =
        some (devs.map .unbind) := once_of_ret enumerated (by simpa using done)
    exact ⟨⟨_, once⟩, ⟨devs.length + 1, by rw [gwResetCb, once]; rfl⟩⟩

/-- The iterator is what is left of the list. -/
def listTraversal : List Text → Option (Text × List Text)
  | [] => none
  | id :: rest => some (id, rest)

theorem listTraversal_enumerates (devs : List Text) :
    Enumerates listTraversal (listTraversal devs) devs := by
  induction devs with
  | nil => exact .nil
  | cons id rest ih => exact .cons ih

def boundDevs : List Text := ["02c7ecdad9251101".toList, "02c7ecdad9251102".toList]

theorem bound_devs_unbound : UnbindsOnce listTraversal (fun _ => 0) boundDevs boundDevs :=
  (unbinds_once_iff _ _ _ _ (listTraversal_enumerates boundDevs)).mpr fun _ _ => rfl

theorem unbindLoop_stuck (id : Text) (iter : List Text) (fuel n : Nat) :
    unbindLoop listTraversal (fun _ => -1) fuel n (some (id, iter)) = none := by
  induction fuel generalizing n with
  | zero => rfl
  | succ fuel ih => rw [unbindLoop, if_neg (by decide), ih, Option.map_none]

/-- A device that cannot be unbound is tried for ever, and the reset is never reached. -/
theorem stuck_unbind : (∀ fuel, gwResetCb listTraversal (fun _ => -1) boundDevs fuel = none) ∧
    ¬ UnbindsOnce listTraversal (fun _ => -1) boundDevs boundDevs := by
  have stuck : ∀ fuel, unbindLoop listTraversal (fun _ => -1) fuel 0 (listTraversal boundDevs) =
      none := fun fuel => unbindLoop_stuck _ _ fuel 0
  refine ⟨fun fuel => by rw [gwResetCb, stuck]; rfl, ?_⟩
  rintro ⟨⟨fuel, once⟩, -⟩
  rw [gwActiveStatusChangedCb, if_neg (by decide), stuck] at once
  contradiction

end HiMaxGateway
