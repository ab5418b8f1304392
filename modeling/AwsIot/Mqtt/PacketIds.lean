/-
  Mqtt/PacketIds.lean --- packet identifiers do not repeat early.

  `aws_iot_mqtt_get_next_packet_id` counts from 1 to `MAX_PACKET_ID` and starts again at
  1.  After `k` calls it is `k` places further in a cycle of 65535 identifiers, and in a
  window of that many calls no place is visited twice.
-/
import AwsIot.Mqtt.Api
import AwsIot.Mqtt.Connection
import Mathlib.Data.List.Nodup
import Mathlib.Logic.Function.Iterate

set_option autoImplicit false

namespace AwsIot.Mqtt

open AwsIot.Foundation Program

/-! ## The cycle -/

/-- Identifiers follow each other in the cycle of 1 to 65535. -/
theorem toNat_followingPacketId (id : UInt16) :
    (followingPacketId id).toNat = id.toNat % 65535 + 1 := by
  unfold followingPacketId
  split
  case isTrue hmax =>
    rw [hmax]
    rfl
  case isFalse hmax =>
    have hne : id.toNat ≠ 65535 := fun heq => hmax (UInt16.toNat_inj.mp heq)
    have hlt := id.toNat_lt
    rw [UInt16.toNat_add, Nat.mod_eq_of_lt (show id.toNat < 65535 by omega)]
    exact Nat.mod_eq_of_lt (show id.toNat + 1 < 65536 by omega)

theorem followingPacketId_ne_zero (id : UInt16) : followingPacketId id ≠ 0 := by
  intro hzero
  have hnext := toNat_followingPacketId id
  rw [hzero] at hnext
  cases hnext

/-- The identifier that is handed out `k` calls after the next one. -/
theorem toNat_iterate_followingPacketId (k : Nat) (id : UInt16) :
    (followingPacketId^[k + 1] id).toNat = (id.toNat + k) % 65535 + 1 := by
  induction k with
  | zero => exact toNat_followingPacketId id
  | succ k ih =>
    rw [Function.iterate_succ_apply', toNat_followingPacketId, ih, Nat.mod_add_mod]
    rfl

/-- Two places of the cycle that are less than a turn apart are different. -/
theorem iterate_followingPacketId_ne {i j : Nat} (hij : i < j) (hturn : j < i + 65535)
    (id : UInt16) : followingPacketId^[i + 1] id ≠ followingPacketId^[j + 1] id := by
  intro heq
  have hplace := congrArg UInt16.toNat heq
  rw [toNat_iterate_followingPacketId, toNat_iterate_followingPacketId] at hplace
  omega

/-! ## Runs of calls -/

/-- What the client does between two calls of `aws_iot_mqtt_get_next_packet_id`: it leaves the
identifier handed out last alone. -/
structure Interlude where
  /-- What becomes of the client. -/
  update : Client → Client
  /-- The identifier stays. -/
  keeps : ∀ c, (update c).nextPacketId = c.nextPacketId

/-- Calls of `aws_iot_mqtt_get_next_packet_id`, each after an interlude: what they return, in
order. -/
def packetIds : List Interlude → M (List UInt16)
  | [] => return []
  | interlude :: rest => do
      modifyClient interlude.update
      let id ← getNextPacketId
      let ids ← packetIds rest
      return id :: ids

/-- The calls return, and the identifiers are places of the cycle in their order. -/
theorem packetIds_ends (interludes : List Interlude) (w : World) :
    (packetIds interludes).Ends w (fun ids _ => ids = (List.range interludes.length).map
      fun k => followingPacketId^[k + 1] w.client.nextPacketId) (fun _ => False) := by
  induction interludes generalizing w with
  | nil => exact rfl
  | cons interlude rest ih =>
    unfold packetIds getNextPacketId
    simp only [ends_bind, ends_modifyClient, ends_getClient, ends_pure, World.client_onClient,
      interlude.keeps]
    refine (ih _).mono ?_ (fun _ h => h)
    rintro ids w' rfl
    rw [List.length_cons, List.range_succ_eq_map, List.map_cons, List.map_map]
    rfl

/-- A window of the cycle that is no longer than a turn repeats nothing. -/
theorem window_nodup {id : UInt16} {n : Nat} {window : List UInt16}
    (hwindow : window <:+: (List.range n).map fun k => followingPacketId^[k + 1] id)
    (hlen : window.length ≤ 65535) : window.Nodup := by
  obtain ⟨before, after, hids⟩ := hwindow
  have hplace : ∀ k < window.length,
      window[k]? = some (followingPacketId^[before.length + k + 1] id) := by
    intro k hk
    have hinside : k < (window ++ after).length := by
      rw [List.length_append]
      omega
    have hlt : before.length + k < n := by
      have hsum := congrArg List.length hids
      simp only [List.length_append, List.length_map, List.length_range] at hsum
      omega
    have hat := congrArg (fun ids => ids[before.length + k]?) hids
    simp only [List.append_assoc] at hat
    rw [List.getElem?_append_right (Nat.le_add_right _ _), Nat.add_sub_cancel_left,
      List.getElem?_append_left hk, List.getElem?_map, List.getElem?_range hlt] at hat
    exact hat
  refine List.nodup_iff_getElem?_ne_getElem?.mpr fun i j hij hj => ?_
  rw [hplace i (by omega), hplace j hj]
  exact fun heq => iterate_followingPacketId_ne (by omega) (by omega) id (Option.some.inj heq)

/-- A client that has been initialised has handed out 1. -/
theorem init_nextPacketId {env : Env} {params : InitParams} {w₀ w : World}
    (hinit : (init env params : M IoTError).run w₀ = .done .success w) :
    w.client.nextPacketId = 1 := by
  have hends : (init env params : M IoTError).Ends w₀
      (fun rc w => rc = .success → w.client.nextPacketId = 1) (fun _ => True) := by
    unfold init resetHandlers setConnectParams
    simp only [ends_bind, ends_ite, ends_pure, ends_modifyClient, ends_emit, ends_ask,
      ends_assignClientState]
    split
    · exact fun h => by cases h
    split
    · exact fun _ => rfl
    split
    · exact fun _ => rfl
    · exact fun _ => rfl
  exact hends.of_run hinit rfl

/-- From a successful `aws_iot_mqtt_init` on, however often
`aws_iot_mqtt_get_next_packet_id` is called, it returns; no identifier is 0, and any 65535
consecutive ones are pairwise distinct. -/
theorem packetIds_distinct (env : Env) (params : InitParams) (w₀ w : World)
    (hinit : (init env params : M IoTError).run w₀ = .done .success w)
    (interludes : List Interlude) :
    ∃ ids w', (packetIds interludes).run w = .done ids w' ∧ ids.length = interludes.length ∧
      ids.head? = (if interludes = [] then none else some 2) ∧ (∀ id ∈ ids, id ≠ 0) ∧
      ∀ window, window <:+: ids → window.length ≤ 65535 → window.Nodup := by
  obtain ⟨ids, w', hrun, hids⟩ := exists_run_of_ends (packetIds_ends interludes w)
  refine ⟨ids, w', hrun, by rw [hids, List.length_map, List.length_range], ?_, ?_, ?_⟩
  · rw [init_nextPacketId hinit] at hids
    cases interludes with
    | nil => rw [hids]; rfl
    | cons interlude rest =>
      rw [hids, List.length_cons, List.range_succ_eq_map]
      rfl
  · intro id hmem
    rw [hids] at hmem
    obtain ⟨k, -, rfl⟩ := List.mem_map.mp hmem
    rw [Function.iterate_succ_apply']
    exact followingPacketId_ne_zero _
  · intro window hwindow hlen
    rw [hids] at hwindow
    exact window_nodup hwindow hlen

/-- Three calls on a client that has just been initialised. -/
theorem packetIds_distinct_three : ∃ ids w',
    (packetIds (List.replicate 3 ⟨id, fun _ => rfl⟩)).run
      ((init quietEnv plainInit : M IoTError).run World.start).state = .done ids w' ∧
    ids.length = 3 ∧ ids.head? = some 2 ∧ (∀ id ∈ ids, id ≠ 0) ∧
    ∀ window, window <:+: ids → window.length ≤ 65535 → window.Nodup :=
  packetIds_distinct quietEnv plainInit World.start _ (run_eq_done rfl)
    (List.replicate 3 ⟨id, fun _ => rfl⟩)

end AwsIot.Mqtt
