/-
  Shadow/AwaitedAnswers.lean --- tracked requests are answered once and not dropped.

  A request is stored in a record that was free before a blocking subscribe, and the record is
  given back behind the callback of the request and a blocking unsubscribe.  What is delivered
  meanwhile runs the same code.  As long as it leaves the record alone, every request that is
  stored keeps its record until its callback is called, and the callback is called once.

  What a log says of a record is a function of the log; `Tracked` says that the table agrees
  with it.  A call that returns leaves open as many answers as it found.
-/
import AwsIot.Shadow.AckStatus

set_option autoImplicit false

namespace AwsIot.Shadow

open AwsIot.Foundation AwsIot.Mqtt Program

/-! ## What a log says -/

/-- Record `i` of `AckWaitList` is in use. -/
def recordInUse (n : Nat) : List ShadowEvent → Nat → Bool
  | [], _ => true
  | .tracked j _ :: log, i => if i = j then true else recordInUse n log i
  | .freed j :: log, i => if i = j then false else recordInUse n log i
  | .recordsInitialized :: log, i => if i < n then false else recordInUse n log i
  | _ :: log, i => recordInUse n log i

/-- How many answers are being dealt with for record `i`. -/
def openAnswers : List ShadowEvent → Nat → Nat
  | [], _ => 0
  | .resolving j :: log, i => if i = j then openAnswers log i + 1 else openAnswers log i
  | .freed j :: log, i => if i = j then openAnswers log i - 1 else openAnswers log i
  | _ :: log, i => openAnswers log i

/-- The request in record `i` whose callback has not been called. -/
def waiting (n : Nat) : List ShadowEvent → Nat → Option Nat
  | [], _ => none
  | .tracked j request :: log, i => if i = j then some request else waiting n log i
  | .callbackCalled j _ _ :: log, i => if i = j then none else waiting n log i
  | .recordsInitialized :: log, i => if i < n then none else waiting n log i
  | _ :: log, i => waiting n log i

/-- The event calls the callback of `request`. -/
def ShadowEvent.calls (request : Nat) : ShadowEvent → Bool
  | .callbackCalled _ r _ => r == request
  | _ => false

/-- The event overwrites or frees record `index`. -/
def ShadowEvent.replaces (index : Nat) : ShadowEvent → Bool
  | .tracked i _ | .freed i => i == index
  | _ => false

/-- No callback is called twice, and no record is overwritten or freed while a request waits
in it. -/
structure AnsweredOnce (n : Nat) (log : List ShadowEvent) : Prop where
  /-- A callback is called at most once. -/
  once : ∀ request, log.countP (ShadowEvent.calls request) ≤ 1
  /-- A request keeps its record until then. -/
  kept : ∀ e before index, (e :: before) <:+ log → e.replaces index = true →
    waiting n before index = none

/-- If the newest event stores a request, the record is still free and no answer for it is
being dealt with; if it starts on an answer, no other one for that record is. -/
def leavesRecordsAlone (n : Nat) : List ShadowEvent → Bool
  | .tracked i _ :: log => !recordInUse n log i && openAnswers log i == 0
  | .resolving i :: log => openAnswers log i == 0
  | _ => true

/-- So it was at every moment. -/
def RecordsLeftAlone (n : Nat) (log : List ShadowEvent) : Prop :=
  ∀ before, before <:+ log → leavesRecordsAlone n before = true

instance (n : Nat) (log : List ShadowEvent) : Decidable (RecordsLeftAlone n log) :=
  decidable_of_iff (∀ before ∈ log.tails, leavesRecordsAlone n before = true)
    (by simp [RecordsLeftAlone, List.mem_tails])

/-! ## The invariant -/

variable {n : Nat}

/-- The table holds what the log says. -/
structure Tracked (n : Nat) (s : Records) : Prop where
  /-- Which records are in use. -/
  use : ∀ i, recordInUse n s.log i = !(s.ackWaitList i).isFree
  /-- A request that waits is in its record, and no answer for it is being dealt with. -/
  holds : ∀ i request, waiting n s.log i = some request →
    (s.ackWaitList i).isFree = false ∧ (s.ackWaitList i).callback = true ∧
      (s.ackWaitList i).request = request ∧ openAnswers s.log i = 0
  /-- What is in a record waits, unless its answer is being dealt with. -/
  waits : ∀ i, (s.ackWaitList i).isFree = false → (s.ackWaitList i).callback = true →
    openAnswers s.log i = 0 → waiting n s.log i = some (s.ackWaitList i).request
  /-- A request waits in one record, and its callback has not been called. -/
  waitsOnce : ∀ i request, waiting n s.log i = some request →
    request < s.requests ∧ s.log.countP (ShadowEvent.calls request) = 0 ∧
      ∀ j, waiting n s.log j = some request → j = i
  /-- No callback of a later request has been called. -/
  numbered : ∀ request, s.requests ≤ request → s.log.countP (ShadowEvent.calls request) = 0
  /-- What has happened. -/
  answered : AnsweredOnce n s.log

theorem AnsweredOnce.cons {e : ShadowEvent} {log : List ShadowEvent} (h : AnsweredOnce n log)
    (honce : ∀ request, e.calls request = true → log.countP (ShadowEvent.calls request) = 0)
    (hkept : ∀ index, e.replaces index = true → waiting n log index = none) :
    AnsweredOnce n (e :: log) where
  once request := by
    rw [List.countP_cons]
    split
    · next hcalls => rw [honce request hcalls]
    · exact h.once request
  kept e' before index hsuffix hreplaces := by
    rcases List.suffix_cons_iff.mp hsuffix with heq | hsuffix
    · obtain ⟨rfl, rfl⟩ := List.cons.inj heq
      exact hkept index hreplaces
    · exact h.kept e' before index hsuffix hreplaces

theorem RecordsLeftAlone.before {log log' : List ShadowEvent} (h : RecordsLeftAlone n log')
    (hsuffix : log <:+ log') : RecordsLeftAlone n log :=
  fun before hbefore => h before (hbefore.trans hsuffix)

theorem awaited_start : Tracked n zeroedRecords where
  use _ := rfl
  holds _ _ := nofun
  waits _ _ := nofun
  waitsOnce _ _ := nofun
  numbered _ _ := rfl
  answered := ⟨fun _ => Nat.zero_le 1, fun _ _ _ h => absurd h.length_le (by simp [zeroedRecords])⟩

/-! ### One step -/

variable {s s' : Records}

/-- An event that is not about awaited answers changes nothing of what a log says of them. -/
theorem plain_event {e : ShadowEvent} (hanswer : e.kind ≠ .answer) (htables : e.kind ≠ .tables)
    (log : List ShadowEvent) :
    recordInUse n (e :: log) = recordInUse n log ∧ openAnswers (e :: log) = openAnswers log ∧
      waiting n (e :: log) = waiting n log ∧ (∀ request, e.calls request = false) ∧
        ∀ index, e.replaces index = false := by
  cases e <;> first
    | exact absurd rfl hanswer
    | exact absurd rfl htables
    | exact ⟨rfl, rfl, rfl, fun _ => rfl, fun _ => rfl⟩

/-- A step that leaves the table and the log alone. -/
theorem Tracked.same (h : Tracked n s) (hlist : s'.ackWaitList = s.ackWaitList)
    (hrequests : s'.requests = s.requests) (hlog : s'.log = s.log) : Tracked n s' := by
  refine ⟨?_, ?_, ?_, ?_, ?_, hlog ▸ h.answered⟩
  · rw [hlog, hlist]
    exact h.use
  · rw [hlog, hlist]
    exact h.holds
  · rw [hlog, hlist]
    exact h.waits
  · rw [hlog, hrequests]
    exact h.waitsOnce
  · rw [hlog, hrequests]
    exact h.numbered

/-- A step that logs something else. -/
theorem Tracked.plain (h : Tracked n s) {e : ShadowEvent} (hanswer : e.kind ≠ .answer)
    (htables : e.kind ≠ .tables) (hlist : s'.ackWaitList = s.ackWaitList)
    (hrequests : s'.requests = s.requests) (hlog : s'.log = e :: s.log) : Tracked n s' := by
  obtain ⟨huse, hopen, hwaiting, hcalls, hreplaces⟩ := plain_event (n := n) hanswer htables s.log
  have hcount : ∀ request, (e :: s.log).countP (ShadowEvent.calls request) =
      s.log.countP (ShadowEvent.calls request) := fun request =>
    List.countP_cons_of_neg (by simp [hcalls request])
  refine ⟨?_, ?_, ?_, ?_, ?_, ?_⟩
  · rw [hlog, hlist, huse]
    exact h.use
  · rw [hlog, hlist, hopen, hwaiting]
    exact h.holds
  · rw [hlog, hlist, hopen, hwaiting]
    exact h.waits
  · rw [hlog, hrequests, hwaiting]
    simp only [hcount]
    exact h.waitsOnce
  · rw [hlog, hrequests]
    simp only [hcount]
    exact h.numbered
  · rw [hlog]
    refine h.answered.cons (fun request hrequest => ?_) fun index hindex => ?_
    · exact absurd hrequest (by simp [hcalls])
    · exact absurd hindex (by simp [hreplaces])

/-- A request is stored in a record that is free. -/
theorem Tracked.tracked (h : Tracked n s) {index : Nat} {record : ToBeReceivedAckRecord}
    (hcalm : leavesRecordsAlone n (.tracked index s.requests :: s.log) = true)
    (hfree : record.isFree = false) (hcallback : record.callback = true)
    (hrequest : record.request = s.requests)
    (hlist : s'.ackWaitList = Function.update s.ackWaitList index record)
    (hrequests : s'.requests = s.requests + 1)
    (hlog : s'.log = .tracked index s.requests :: s.log) : Tracked n s' := by
  obtain ⟨hunused, hopen⟩ := Bool.and_eq_true_iff.mp hcalm
  have hunused : recordInUse n s.log index = false := by simpa using hunused
  have hopen : openAnswers s.log index = 0 := by simpa using hopen
  have hnone : waiting n s.log index = none := by
    cases hwaiting : waiting n s.log index with
    | none => rfl
    | some request =>
      have huse := h.use index
      rw [hunused, (h.holds index request hwaiting).1] at huse
      cases huse
  have hcount : ∀ request, s'.log.countP (ShadowEvent.calls request) =
      s.log.countP (ShadowEvent.calls request) := fun request => by
    rw [hlog]
    exact List.countP_cons_of_neg Bool.false_ne_true
  refine ⟨fun i => ?_, fun i request hwaits => ?_, fun i hi hc ho => ?_,
    fun i request hwaits => ?_, fun request hle => ?_, ?_⟩
  · rw [hlog, hlist]
    by_cases hi : i = index
    · subst hi
      simp [recordInUse, hfree]
    · simp [recordInUse, hi, h.use]
  · rw [hlog] at hwaits ⊢
    rw [hlist]
    by_cases hi : i = index
    · subst hi
      obtain rfl : s.requests = request := by simpa [waiting] using hwaits
      simp [openAnswers, hfree, hcallback, hrequest, hopen]
    · have hwaits : waiting n s.log i = some request := by simpa [waiting, hi] using hwaits
      rw [Function.update_of_ne hi]
      exact h.holds i request hwaits
  · rw [hlist] at hi hc ⊢
    rw [hlog] at ho ⊢
    by_cases heq : i = index
    · subst heq
      simp [waiting, hrequest]
    · rw [Function.update_of_ne heq] at hi hc ⊢
      have hwaits := h.waits i hi hc ho
      simpa [waiting, heq] using hwaits
  · rw [hcount, hrequests]
    rw [hlog] at hwaits
    by_cases hi : i = index
    · subst hi
      obtain rfl : s.requests = request := by simpa [waiting] using hwaits
      refine ⟨Nat.lt_succ_self _, h.numbered _ (Nat.le_refl _), fun j hj => ?_⟩
      by_contra hne
      have hj : waiting n s.log j = some s.requests := by simpa [hlog, waiting, hne] using hj
      exact absurd (h.waitsOnce j _ hj).1 (Nat.lt_irrefl _)
    · have hwaits : waiting n s.log i = some request := by simpa [waiting, hi] using hwaits
      obtain ⟨hlt, hzero, honly⟩ := h.waitsOnce i request hwaits
      refine ⟨Nat.lt_succ_of_lt hlt, hzero, fun j hj => ?_⟩
      by_cases hj' : j = index
      · subst hj'
        obtain rfl : s.requests = request := by simpa [hlog, waiting] using hj
        exact absurd hlt (Nat.lt_irrefl _)
      · exact honly j (by simpa [hlog, waiting, hj'] using hj)
  · rw [hcount]
    have hlt : s.requests + 1 ≤ request := hrequests ▸ hle
    exact h.numbered request (Nat.le_of_succ_le hlt)
  · rw [hlog]
    refine h.answered.cons (fun _ => nofun) fun i hi => ?_
    obtain rfl : index = i := by simpa [ShadowEvent.replaces] using hi
    exact hnone

/-- A record is given back whose answer was being dealt with. -/
theorem Tracked.freed (h : Tracked n s) {index : Nat} (hopen : openAnswers s.log index ≠ 0)
    (hlist : s'.ackWaitList = Function.update s.ackWaitList index
      { s.ackWaitList index with isFree := true })
    (hrequests : s'.requests = s.requests) (hlog : s'.log = .freed index :: s.log) :
    Tracked n s' := by
  have hnone : waiting n s.log index = none := by
    cases hwaiting : waiting n s.log index with
    | none => rfl
    | some request => exact absurd (h.holds index request hwaiting).2.2.2 hopen
  have hwaiting : waiting n s'.log = waiting n s.log := by rw [hlog]; rfl
  have hcount : ∀ request, s'.log.countP (ShadowEvent.calls request) =
      s.log.countP (ShadowEvent.calls request) := fun request => by
    rw [hlog]
    exact List.countP_cons_of_neg Bool.false_ne_true
  have hother : ∀ {i}, i ≠ index → s'.ackWaitList i = s.ackWaitList i ∧
      openAnswers s'.log i = openAnswers s.log i := fun hi => by
    rw [hlist, hlog]
    exact ⟨Function.update_of_ne hi .., if_neg hi⟩
  refine ⟨fun i => ?_, fun i request hwaits => ?_, fun i hi hc ho => ?_,
    fun i request hwaits => ?_, fun request hle => ?_, ?_⟩
  · by_cases hi : i = index
    · subst hi
      rw [hlog, hlist]
      simp [recordInUse]
    · rw [(hother hi).1, hlog]
      simp [recordInUse, hi, h.use]
  · rw [hwaiting] at hwaits
    have hi : i ≠ index := by
      rintro rfl
      rw [hnone] at hwaits
      cases hwaits
    rw [(hother hi).1, (hother hi).2]
    exact h.holds i request hwaits
  · rw [hwaiting]
    by_cases heq : i = index
    · subst heq
      rw [hlist, Function.update_self] at hi
      cases hi
    · rw [(hother heq).1] at hi hc ⊢
      rw [(hother heq).2] at ho
      exact h.waits i hi hc ho
  · rw [hwaiting] at hwaits ⊢
    rw [hcount, hrequests]
    exact h.waitsOnce i request hwaits
  · rw [hcount]
    exact h.numbered request (hrequests ▸ hle)
  · rw [hlog]
    refine h.answered.cons (fun _ => nofun) fun i hi => ?_
    obtain rfl : index = i := by simpa [ShadowEvent.replaces] using hi
    exact hnone

/-- An answer for a record in use starts to be dealt with, and its callback is called. -/
theorem Tracked.resolving (h : Tracked n s) {index : Nat} (status : AckStatus)
    (hcalm : leavesRecordsAlone n (.resolving index :: s.log) = true)
    (huse : (s.ackWaitList index).isFree = false) (hlist : s'.ackWaitList = s.ackWaitList)
    (hrequests : s'.requests = s.requests)
    (hlog : s'.log = if (s.ackWaitList index).callback = true then
        .callbackCalled index (s.ackWaitList index).request status :: .resolving index :: s.log
      else .resolving index :: s.log) : Tracked n s' := by
  have hopen : openAnswers s.log index = 0 := by simpa [leavesRecordsAlone] using hcalm
  have hinUse : recordInUse n s'.log = recordInUse n s.log := by
    rw [hlog]
    split <;> rfl
  have hopens : openAnswers s'.log = openAnswers (.resolving index :: s.log) := by
    rw [hlog]
    split <;> rfl
  have hwaiting : ∀ i, waiting n s'.log i = if i = index then none else waiting n s.log i := by
    intro i
    rw [hlog]
    split
    · rfl
    · next hcallback =>
      split
      · next hi =>
        subst hi
        cases hnone : waiting n s.log i with
        | none => exact hnone
        | some request => exact absurd (h.holds i request hnone).2.1 hcallback
      · rfl
  -- the callback that is called is that of the request in the record
  have hcalls : ∀ request, s'.log.countP (ShadowEvent.calls request) =
      s.log.countP (ShadowEvent.calls request) + if (s.ackWaitList index).callback = true ∧
        (s.ackWaitList index).request = request then 1 else 0 := by
    intro request
    rw [hlog]
    split
    · next hcallback => simp [List.countP_cons, ShadowEvent.calls, hcallback]
    · next hcallback => simp [ShadowEvent.calls, hcallback]
  refine ⟨fun i => ?_, fun i request hwaits => ?_, fun i hi hc ho => ?_,
    fun i request hwaits => ?_, fun request hle => ?_, ?_⟩
  · rw [hinUse, hlist]
    exact h.use i
  · rw [hwaiting] at hwaits
    split at hwaits
    · cases hwaits
    · next hi =>
      rw [hlist, hopens]
      simp only [openAnswers, if_neg hi]
      exact h.holds i request hwaits
  · rw [hlist] at hi hc ⊢
    rw [hopens] at ho
    rw [hwaiting]
    split
    · next heq =>
      subst heq
      simp [openAnswers] at ho
    · next heq =>
      simp only [openAnswers, if_neg heq] at ho
      exact h.waits i hi hc ho
  · rw [hwaiting] at hwaits
    split at hwaits
    · cases hwaits
    · next hi =>
      obtain ⟨hlt, hzero, honly⟩ := h.waitsOnce i request hwaits
      refine ⟨hrequests ▸ hlt, ?_, fun j hj => ?_⟩
      · rw [hcalls, hzero, if_neg]
        rintro ⟨hcallback, rfl⟩
        exact hi (honly index (h.waits index huse hcallback hopen)).symm
      · rw [hwaiting] at hj
        split at hj
        · cases hj
        · exact honly j hj
  · rw [hcalls, h.numbered request (hrequests ▸ hle), if_neg]
    rintro ⟨hcallback, rfl⟩
    have hlt := (h.waitsOnce index _ (h.waits index huse hcallback hopen)).1
    exact absurd hlt (Nat.not_lt.mpr (hrequests ▸ hle))
  · have hanswered : AnsweredOnce n (.resolving index :: s.log) :=
      h.answered.cons (fun _ => nofun) fun _ => nofun
    rw [hlog]
    split
    · next hcallback =>
      refine hanswered.cons (fun request hrequest => ?_) fun _ => nofun
      obtain rfl : (s.ackWaitList index).request = request := by
        simpa [ShadowEvent.calls] using hrequest
      exact (h.waitsOnce index _ (h.waits index huse hcallback hopen)).2.1
    · exact hanswered

/-- Emptying the tables. -/
theorem Tracked.initialized (h : Tracked n s)
    (hlist : ∀ i, s'.ackWaitList i =
      if i < n then { s.ackWaitList i with isFree := true } else s.ackWaitList i)
    (hrequests : s'.requests = s.requests) (hlog : s'.log = .recordsInitialized :: s.log) :
    Tracked n s' := by
  have hcount : ∀ request, s'.log.countP (ShadowEvent.calls request) =
      s.log.countP (ShadowEvent.calls request) := fun request => by
    rw [hlog]
    exact List.countP_cons_of_neg Bool.false_ne_true
  have hopen : openAnswers s'.log = openAnswers s.log := by
    rw [hlog]
    rfl
  have hwaiting : ∀ i, waiting n s'.log i = if i < n then none else waiting n s.log i := by
    intro i
    rw [hlog]
    rfl
  refine ⟨fun i => ?_, fun i request hwaits => ?_, fun i hi hc ho => ?_,
    fun i request hwaits => ?_, fun request hle => ?_, ?_⟩
  · rw [hlog, hlist]
    by_cases hi : i < n
    · simp [recordInUse, hi]
    · simp [recordInUse, hi, h.use]
  · rw [hwaiting] at hwaits
    split at hwaits
    · cases hwaits
    · next hi =>
      rw [hlist, if_neg hi, hopen]
      exact h.holds i request hwaits
  · rw [hlist] at hi hc ⊢
    rw [hwaiting]
    split at hi
    · cases hi
    · next hlt =>
      rw [if_neg hlt] at hc ⊢
      rw [if_neg hlt]
      exact h.waits i hi hc (hopen ▸ ho)
  · rw [hwaiting] at hwaits
    split at hwaits
    · cases hwaits
    · obtain ⟨hlt, hzero, honly⟩ := h.waitsOnce i request hwaits
      refine ⟨hrequests ▸ hlt, (hcount request).trans hzero, fun j hj => ?_⟩
      rw [hwaiting] at hj
      split at hj
      · cases hj
      · exact honly j hj
  · rw [hcount]
    exact h.numbered request (hrequests ▸ hle)
  · rw [hlog]
    exact h.answered.cons (fun _ => nofun) fun _ => nofun

/-! ### A whole run -/

/-- A run that has halted: if every record was left alone, the table holds what the log says. -/
def AwaitedHalt (n : Nat) (w w' : World) : Prop :=
  w.shadow.log <:+ w'.shadow.log ∧
    (RecordsLeftAlone n w'.shadow.log → Tracked n w.shadow → Tracked n w'.shadow)

/-- A run that has returned: it also leaves open as many answers as it found. -/
def AwaitedReturn (n : Nat) (w w' : World) : Prop :=
  openAnswers w'.shadow.log = openAnswers w.shadow.log ∧ AwaitedHalt n w w'

variable {w w' : World}

theorem AwaitedHalt.trans {w₁ : World} (h : AwaitedHalt n w w₁) (h' : AwaitedHalt n w₁ w') :
    AwaitedHalt n w w' :=
  ⟨h.1.trans h'.1, fun hcalm hawaited => h'.2 hcalm (h.2 (hcalm.before h'.1) hawaited)⟩

theorem awaitedHalt_refl (n : Nat) (w : World) : AwaitedHalt n w w :=
  ⟨List.suffix_refl _, fun _ h => h⟩

instance : IsPreorder World (AwaitedReturn n) where
  refl w := ⟨rfl, awaitedHalt_refl n w⟩
  trans _ _ _ h h' := ⟨h'.1.trans h.1, h.2.trans h'.2⟩

theorem haltsAfter_awaited (n : Nat) : HaltsAfter (AwaitedReturn n) (AwaitedHalt n) where
  refl := awaitedHalt_refl n
  trans h h' := h.2.trans h'

/-- What a program does to the awaited answers. -/
abbrev KeepsAwaited (n : Nat) {α : Type} (x : M α) : Prop :=
  Tracks (AwaitedReturn n) (AwaitedHalt n) x

/-- A step that leaves the table and the log alone. -/
theorem awaitedReturn_same (hlist : w'.shadow.ackWaitList = w.shadow.ackWaitList)
    (hrequests : w'.shadow.requests = w.shadow.requests) (hlog : w'.shadow.log = w.shadow.log) :
    AwaitedReturn n w w' :=
  ⟨congrArg openAnswers hlog, hlog ▸ List.suffix_refl _, fun _ h => h.same hlist hrequests hlog⟩

/-- A step that logs something else. -/
theorem awaitedReturn_plain {e : ShadowEvent} (hanswer : e.kind ≠ .answer)
    (htables : e.kind ≠ .tables) (hlist : w'.shadow.ackWaitList = w.shadow.ackWaitList)
    (hrequests : w'.shadow.requests = w.shadow.requests)
    (hlog : w'.shadow.log = e :: w.shadow.log) : AwaitedReturn n w w' := by
  refine ⟨?_, hlog ▸ List.suffix_cons _ _, fun _ h => ?_⟩
  · rw [hlog]
    exact (plain_event (n := n) hanswer htables _).2.1
  · exact h.plain hanswer htables hlist hrequests hlog

theorem awaitedReturn_steps (n : Nat) (env : ShadowEnv) : AllSteps env.mqtt (AwaitedReturn n) :=
  allSteps_of_shadow (fun h => awaitedReturn_same (congrArg Records.ackWaitList h)
    (congrArg Records.requests h) (congrArg Records.log h)) env.mqtt

/-- Logging something else. -/
theorem keepsAwaited_note {e : ShadowEvent} (hanswer : e.kind ≠ .answer)
    (htables : e.kind ≠ .tables) : KeepsAwaited n (note e : M Unit) := fun _ =>
  awaitedReturn_plain hanswer htables rfl rfl rfl

/-- An update of the static storage that leaves the table and the log alone. -/
theorem keepsAwaited_modifyRecords {f : Records → Records} (hlog : ∀ s, (f s).log = s.log)
    (hanswers : KeepsAnswers f) : KeepsAwaited n (modifyRecords f : M Unit) := fun w =>
  awaitedReturn_same (hanswers w.shadow).1 (hanswers w.shadow).2 (hlog w.shadow)

theorem keepsAnswers_storeTopic (buffer : TopicBuffer) (topic : List UInt8) :
    KeepsAnswers fun s => s.storeTopic buffer topic := by
  cases buffer with
  | subscription index => exact fun _ => ⟨rfl, rfl⟩
  | shadowDeltaTopic => exact fun _ => ⟨rfl, rfl⟩

theorem keepsAwaited_storeTopic (buffer : TopicBuffer) (topic : List UInt8) :
    KeepsAwaited n (storeTopic buffer topic : M Unit) :=
  keepsAwaited_modifyRecords (fun s => (keepsVersion_storeTopic buffer topic s).1)
    (keepsAnswers_storeTopic buffer topic)

theorem keepsAwaited_initializeRecords (config : ShadowConfig) :
    KeepsAwaited config.maxAcksToComeinAtAnyGivenTime (initializeRecords config : M Unit) :=
  fun _ => ⟨rfl, List.suffix_cons _ _, fun _ h => h.initialized (fun _ => rfl) rfl rfl⟩

theorem awaited_subscribing (env : ShadowEnv) : Subscribing (m := M) env
    (KeepsAwaited env.config.maxAcksToComeinAtAnyGivenTime) where
  toEverything := (awaitedReturn_steps _ env).tracking (haltsAfter_awaited _)
  serving := (awaitedReturn_steps _ env).servingTracking (haltsAfter_awaited _)
  getRecords w := refl_of (AwaitedReturn _) w
  modifyRecords hversion _ htables := keepsAwaited_modifyRecords (fun s => (hversion s).1)
    fun s => ⟨(htables s).1, (htables s).2.1⟩
  storeDeltaTopic := keepsAwaited_storeTopic .shadowDeltaTopic
  passing _ topic _ hx := hx ⟨topic⟩
  initializeRecords := keepsAwaited_initializeRecords env.config
  note hkind := keepsAwaited_note (by rw [hkind]; decide) (by rw [hkind]; decide)
  modifySubscriptions hversion _ hanswers :=
    keepsAwaited_modifyRecords (fun s => (hversion s).1) hanswers
  storeTopic := keepsAwaited_storeTopic
  noteSubscription hkind := keepsAwaited_note (by rw [hkind]; decide) (by rw [hkind]; decide)

/-- A request is stored. -/
theorem keepsAwaited_addToAckWaitList (env : ShadowEnv) (index : Nat) (thingName : List UInt8)
    (action : ShadowActions) (clientToken : List UInt8) {callback : Bool}
    (hcallback : callback = true) (timeoutSeconds : Nat) :
    KeepsAwaited n (addToAckWaitList env index thingName action clientToken callback
      timeoutSeconds : M Unit) := by
  subst hcallback
  intro w
  refine ⟨rfl, List.suffix_cons _ _, fun hcalm h => ?_⟩
  exact h.tracked (hcalm _ (List.suffix_refl _)) rfl rfl rfl rfl rfl rfl

section Resolving

variable {env : ShadowEnv} {fuel : Nat} {handlers : Handlers M}

/-- A stretch of a run in which an answer for record `index` is being dealt with. -/
def AnswerOpen (n index : Nat) (w w' : World) : Prop :=
  (∀ i, openAnswers w'.shadow.log i =
    if i = index then openAnswers w.shadow.log i + 1 else openAnswers w.shadow.log i) ∧
      AwaitedHalt n w w'

theorem AnswerOpen.trans {w₁ : World} {index : Nat} (h : AnswerOpen n index w w₁)
    (h' : AwaitedReturn n w₁ w') : AnswerOpen n index w w' :=
  ⟨fun i => by rw [h'.1]; exact h.1 i, h.2.trans h'.2⟩

/-- The callback of a record in use is called while an answer for it is being dealt with. -/
theorem ends_callBack_open (hhandlers : Handled (KeepsAwaited n) handlers) {index : Nat}
    (status : AckStatus) (huse : (w.shadow.ackWaitList index).isFree = false) :
    (callBack handlers index status).Ends w (fun _ w' => AnswerOpen n index w w')
      (AwaitedHalt n w) := by
  unfold callBack
  rw [ends_bind, ends_getRecords, ends_bind, ends_note]
  by_cases hcallback : (w.shadow.ackWaitList index).callback = true
  · rw [if_pos hcallback, ends_bind, ends_note]
    generalize hw₁ : World.onShadow _ _ = w₁
    have hlog : w₁.shadow.log = .callbackCalled index (w.shadow.ackWaitList index).request status ::
        .resolving index :: w.shadow.log := by rw [← hw₁]; rfl
    have hopen : AnswerOpen n index w w₁ := by
      refine ⟨fun i => by rw [hlog]; rfl, ⟨[_, _], hlog.symm⟩, fun hcalm h => ?_⟩
      refine h.resolving status (hcalm _ ?_) huse ?_ ?_ ?_
      · rw [hlog]
        exact List.suffix_cons _ _
      · rw [← hw₁]
        rfl
      · rw [← hw₁]
        rfl
      · rw [if_pos hcallback, hlog]
    exact (hhandlers.action w₁).mono (fun _ _ h => hopen.trans h) fun _ h => hopen.2.trans h
  · rw [if_neg hcallback, ends_pure]
    refine ⟨fun _ => rfl, List.suffix_cons _ _, fun hcalm h => ?_⟩
    exact h.resolving status (hcalm _ (List.suffix_refl _)) huse rfl rfl (if_neg hcallback).symm

/-- The record is given back, and the answer has been dealt with. -/
theorem ends_freeAckWait_open {index : Nat} {w₁ : World} (h : AnswerOpen n index w w₁) :
    (freeAckWait index : M Unit).Ends w₁ (fun _ w' => AwaitedReturn n w w') (AwaitedHalt n w) := by
  have hopen : openAnswers w₁.shadow.log index ≠ 0 := by
    rw [h.1 index, if_pos rfl]
    exact Nat.succ_ne_zero _
  have hfreed : AwaitedHalt n w₁ (((w₁.onShadow fun s => { s with
      ackWaitList := Function.update s.ackWaitList index
        { s.ackWaitList index with isFree := true } }).onShadow fun s =>
          { s with log := .freed index :: s.log })) :=
    ⟨List.suffix_cons _ _, fun _ hawaited => hawaited.freed hopen rfl rfl rfl⟩
  refine ⟨?_, h.2.trans hfreed⟩
  funext i
  show (if i = index then openAnswers w₁.shadow.log i - 1 else openAnswers w₁.shadow.log i) = _
  rw [h.1 i]
  split
  · exact Nat.add_sub_cancel ..
  · rfl

theorem ackStatus_same (topicName : List UInt8) {H : World → Prop} :
    (ackStatus env topicName : M AckStatus).Ends w (fun _ w' => w'.shadow = w.shadow) H := by
  unfold ackStatus
  rw [ends_ite]
  split
  · rfl
  · rw [ends_ite]
    split
    · rfl
    · rfl

variable (hhandlers : Handled (KeepsAwaited n) handlers)
  (hunsubscribe : ∀ index,
    KeepsAwaited n (unsubscribeFromAcceptedAndRejected env fuel handlers index))
include hhandlers hunsubscribe

/-- An answer for a record in use. -/
theorem ends_resolve {index : Nat} (status : AckStatus)
    (huse : (w.shadow.ackWaitList index).isFree = false) :
    (resolve env fuel handlers index status).Ends w (fun _ w' => AwaitedReturn n w w')
      (AwaitedHalt n w) := by
  unfold resolve
  rw [ends_bind]
  refine (ends_callBack_open hhandlers status huse).mono (fun _ w₁ h₁ => ?_) fun _ h => h
  rw [ends_bind]
  refine (hunsubscribe index w₁).mono (fun _ w₂ h₂ => ?_) fun _ h => h₁.2.trans h
  exact ends_freeAckWait_open (h₁.trans h₂)

theorem keepsAwaited_resolveRecord (topicName clientToken : List UInt8) (index : Nat) :
    KeepsAwaited n (resolveRecord env fuel handlers topicName clientToken index) := by
  intro w
  unfold resolveRecord
  rw [ends_bind, ends_getRecords, ends_ite]
  split
  · exact refl_of (AwaitedReturn n) w
  · next hrecord =>
    have huse : (w.shadow.ackWaitList index).isFree = false := by
      simpa using (not_or.mp hrecord).1
    rw [ends_bind]
    refine (ackStatus_same topicName).mono (fun status w₁ h₁ => ?_) fun _ h => h
    have hsame : AwaitedReturn n w w₁ := awaitedReturn_same (congrArg Records.ackWaitList h₁)
      (congrArg Records.requests h₁) (congrArg Records.log h₁)
    rw [ends_ite]
    split
    · exact hsame
    · rw [ends_bind]
      refine (ends_resolve hhandlers hunsubscribe status (h₁ ▸ huse)).mono (fun _ w' h => ?_) ?_
      · exact trans_of (AwaitedReturn n) hsame h
      · exact fun _ h => hsame.2.trans h

theorem keepsAwaited_handleExpired (index : Nat) :
    KeepsAwaited n (handleExpired env fuel handlers index) := by
  intro w
  unfold handleExpired
  rw [ends_bind, ends_getRecords, ends_ite]
  split
  · next hrecord =>
    have huse : (w.shadow.ackWaitList index).isFree = false := by simpa using hrecord
    have hsame : AwaitedReturn n w w.tick := awaitedReturn_same rfl rfl rfl
    rw [ends_bind, ends_hasTimerExpired, ends_ite]
    split
    · rw [ends_bind]
      have hcall := ends_callBack_open (w := w.tick) hhandlers .timeout huse
      refine hcall.mono (fun _ w₁ h₁ => ?_) fun _ h => hsame.2.trans h
      rw [ends_bind]
      refine (ends_freeAckWait_open h₁).mono (fun _ w₂ h₂ => ?_) fun _ h => hsame.2.trans h
      have hback := trans_of (AwaitedReturn n) hsame h₂
      refine (hunsubscribe index w₂).mono (fun _ w' h => ?_) fun _ h => hback.2.trans h
      exact trans_of (AwaitedReturn n) hback h
    · exact hsame
  · exact refl_of (AwaitedReturn n) w

end Resolving

theorem awaited_recording (env : ShadowEnv) : Recording (m := M) env
    (KeepsAwaited env.config.maxAcksToComeinAtAnyGivenTime) where
  toStoring := (awaited_subscribing env).toStoring
  trackedAction fuel hhandlers _ _ _ _ _ _ hcallback :=
    (awaited_subscribing env).trackedAction fuel hhandlers _ _ _ _ _ _
      (keepsAwaited_addToAckWaitList env _ _ _ _ hcallback _)
  handleExpired fuel hhandlers := keepsAwaited_handleExpired hhandlers
    ((awaited_subscribing env).unsubscribeFromAcceptedAndRejected fuel hhandlers)
  resolveRecord fuel hhandlers := keepsAwaited_resolveRecord hhandlers
    ((awaited_subscribing env).unsubscribeFromAcceptedAndRejected fuel hhandlers)

theorem awaited_versioned (env : ShadowEnv) (fuel : Nat) : Versioned (m := M) env fuel
    (KeepsAwaited env.config.maxAcksToComeinAtAnyGivenTime) :=
  (awaited_recording env).versioned
    (fun hlog _ htables => keepsAwaited_modifyRecords hlog fun s =>
      ⟨(htables s).1, (htables s).2.1⟩)
    (fun hkind => keepsAwaited_note (by rw [hkind]; decide) (by rw [hkind]; decide))
    (fun _ => awaitedReturn_plain (e := .versionReset) (by decide) (by decide) rfl rfl rfl)
    (fun flag _ => awaitedReturn_plain (e := .discardSet flag) nofun nofun rfl rfl rfl) fuel

/-- In every run in which a request is only stored in a record that is free and for which no
answer is being dealt with, and no answer is dealt with twice at the same time, the callback of
every tracked request is called at most once, and the request keeps its record until then. -/
theorem answeredOnce_of_leftAlone (env : ShadowEnv) (fuel : Nat) (calls : List ShadowCall)
    (hcalm : RecordsLeftAlone env.config.maxAcksToComeinAtAnyGivenTime
      ((shadowApplication env fuel calls : M Unit).run World.start).state.shadow.log) :
    AnsweredOnce env.config.maxAcksToComeinAtAnyGivenTime
      ((shadowApplication env fuel calls : M Unit).run World.start).state.shadow.log := by
  have hends : (shadowApplication env fuel calls : M Unit).Ends World.start
      (fun _ w => RecordsLeftAlone env.config.maxAcksToComeinAtAnyGivenTime w.shadow.log →
        Tracked env.config.maxAcksToComeinAtAnyGivenTime w.shadow)
      (fun w => RecordsLeftAlone env.config.maxAcksToComeinAtAnyGivenTime w.shadow.log →
        Tracked env.config.maxAcksToComeinAtAnyGivenTime w.shadow) :=
    ((awaited_versioned env fuel).shadowApplication calls World.start).mono
      (fun _ _ h hcalm => h.2.2 hcalm awaited_start) fun _ h hcalm => h.2 hcalm awaited_start
  exact (ends_state_iff.mp hends hcalm).answered

/-! ### One get and two answers -/

/-- The message that answers the first get of the thing `a`. -/
def getAcceptedMessage : List UInt8 :=
  [0x30, 56, 0, 33] ++ ascii "$aws/things/a/shadow/get/accepted" ++ ackPayload

/-- Surroundings in which the server accepts the connection and the subscriptions of a get, and
answers it at the questions `answers`. -/
def getEnv (answers : List Nat) : ShadowEnv :=
  { quietShadowEnv (Document.parserOf [tokenDocument, ackDocument]) with
    mqtt := { quietEnv with clock := fun n => 500 * n }.receiving
      ([(6, [0x20, 2, 0, 0]), (15, [0x90, 3, 0, 2, 0]), (23, [0x90, 3, 0, 3, 0])] ++
        answers.map fun t => (t, getAcceptedMessage)) }

/-- The log of a run that gets the shadow of `a` and yields. -/
def getLog (answers : List Nat) : List ShadowEvent :=
  ((shadowApplication (getEnv answers) 10 [
    .init ⟨true, 8883, true, true, true, false, false⟩,
    .connect ⟨⟨ascii "a"⟩, some ⟨ascii "c"⟩, 1, false⟩,
    .get ⟨some ⟨ascii "a"⟩, true, 200, false⟩,
    .yield 4000] : M Unit).run World.start).state.shadow.log

/-- One answer is one call of the callback. -/
theorem answeredOnce_get :
    (getLog [40]).countP (ShadowEvent.calls 1) = 1 ∧ AnsweredOnce 10 (getLog [40]) :=
  ⟨by decide +kernel, answeredOnce_of_leftAlone (getEnv [40]) 10 _ (by decide +kernel)⟩

/-- A second answer that arrives during the unsubscribe calls the callback again. -/
theorem not_always_answeredOnce : ¬ ∀ (env : ShadowEnv) (fuel : Nat) (calls : List ShadowCall),
    AnsweredOnce env.config.maxAcksToComeinAtAnyGivenTime
      ((shadowApplication env fuel calls : M Unit).run World.start).state.shadow.log := by
  intro h
  have hanswered : AnsweredOnce 10 (getLog [40, 49]) := h (getEnv [40, 49]) 10 _
  have htwice : (getLog [40, 49]).countP (ShadowEvent.calls 1) = 2 := by decide +kernel
  exact absurd (hanswered.once 1) (by rw [htwice]; decide)

end AwsIot.Shadow
