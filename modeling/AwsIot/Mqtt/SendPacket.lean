/-
  Mqtt/SendPacket.lean --- which bytes `send_packet` puts on the wire.

  `networkStack.write` may take any part of what it is offered.  The loop of
  `send_packet` moves its pointer past the bytes taken, but requests the length
  of the whole packet again, so a second pass offers bytes behind the packet.

  `SendsExactly` is what a sender owes: the bytes taken are a prefix of the
  packet at every moment, nothing behind the packet is offered, and SUCCESS means
  that the whole packet was taken.  `sendsExactly_iff` says when `send_packet`
  does it: unless the network takes a proper part of the packet and the timer
  still runs when the loop comes round.
-/
import AwsIot.Mqtt.Transport

set_option autoImplicit false

namespace AwsIot.Mqtt

open AwsIot.Foundation Program

/-! ## What a sender owes -/

/-- The bytes the network took in a stretch of the log, oldest first.  A write
that returns an error took nothing. -/
def acceptedBytes : List Event → List UInt8
  | [] => []
  | .netWrite _ offered rc sentLen :: log =>
      acceptedBytes log ++ (if rc = .success then offered.take sentLen else [])
  | _ :: log => acceptedBytes log

/-- Every write of a stretch of the log was offered only bytes before index
`length` of the write buffer. -/
def OffersInside (length : Nat) (log : List Event) : Prop :=
  ∀ offset offered rc sentLen, Event.netWrite offset offered rc sentLen ∈ log →
    offset + offered.length ≤ length

/-- `send_packet` run on the first `length` bytes of the write buffer. -/
def sendRun (env : Env) (length : Nat) (timer : Timer) (w : World) (fuel : Nat) :
    Outcome World IoTError :=
  (sendPacket env fuel length timer : M IoTError).run w

/-- `send_packet` puts exactly the packet on the wire.  Every amount of fuel is
one moment of the run. -/
structure SendsExactly (env : Env) (length : Nat) (timer : Timer) (w : World) : Prop where
  /-- At every moment the bytes taken are a prefix of the packet. -/
  isPrefix : ∀ fuel, acceptedBytes (w.since (sendRun env length timer w fuel).state) <+:
    w.client.writeBuf.slice 0 length
  /-- At every moment only bytes of the packet were offered. -/
  inside : ∀ fuel, OffersInside length (w.since (sendRun env length timer w fuel).state)
  /-- A return is a SUCCESS exactly when the whole packet was taken. -/
  success_iff : ∀ fuel rc, (sendRun env length timer w fuel).value? = some rc →
    (rc = .success ↔ acceptedBytes (w.since (sendRun env length timer w fuel).state) =
      w.client.writeBuf.slice 0 length)
  /-- Once the whole packet was taken the function does return SUCCESS. -/
  returns : ∀ fuel, acceptedBytes (w.since (sendRun env length timer w fuel).state) =
      w.client.writeBuf.slice 0 length →
    ∃ fuel', (sendRun env length timer w fuel').value? = some .success

/-- What the write with number `t` takes of `length` bytes, `none` on an error. -/
def taken (env : Env) (length t : Nat) : Option Nat :=
  if (env.write t).rc = .success then some (min (env.write t).sentLen length) else none

/-- From question `t` on, the network takes a proper part of the packet and the
timer has not expired at the next test: the loop writes again. -/
inductive PartialRetry (env : Env) (length : Nat) (timer : Timer) : Nat → Prop where
  /-- A write that took nothing is repeated as it was. -/
  | nothing {t : Nat} : ¬ timer ≤ env.clock t → taken env length (t + 1) = some 0 →
      PartialRetry env length timer (t + 2) → PartialRetry env length timer t
  /-- A write that took a proper part is followed by another one. -/
  | part {t k : Nat} : ¬ timer ≤ env.clock t → taken env length (t + 1) = some k →
      0 < k → k < length → ¬ timer ≤ env.clock (t + 2) → PartialRetry env length timer t

/-! ## One pass -/

section Pass

variable {env : Env} {length : Nat} {timer : Timer}

/-- The write of a pass, as the log records it. -/
def writeEvent (env : Env) (length sent : Nat) (w : World) : Event :=
  .netWrite sent (w.client.writeBuf.slice sent length) (env.write (w.time + 1)).rc
    (min (env.write (w.time + 1)).sentLen length)

/-- Everything one pass of the loop can do. -/
theorem ends_sendPass {sent : Nat} {w : World} {Q : Step Nat Nat → World → Prop}
    {H : World → Prop} :
    (sendPass env length timer sent : M (Step Nat Nat)).Ends w Q H ↔
      if sent < length then
        if timer ≤ env.clock w.time then Q (.stop sent) w.tick
        else match taken env length (w.time + 1) with
          | none => Q (.stop sent) (w.tick.tick.push (writeEvent env length sent w))
          | some k => Q (.again (sent + k)) (w.tick.tick.push (writeEvent env length sent w))
      else Q (.stop sent) w := by
  unfold sendPass
  by_cases hsent : sent < length
  · by_cases htimer : timer ≤ env.clock w.time
    · simp [hsent, htimer, hasTimerExpired]
    · by_cases hrc : (env.write (w.time + 1)).rc = .success <;>
        simp [hsent, htimer, hrc, taken, writeEvent, hasTimerExpired, netWrite]
  · simp [hsent]

theorem acceptedBytes_writeEvent (sent : Nat) (w : World) (log : List Event) :
    acceptedBytes (writeEvent env length sent w :: log) =
      acceptedBytes log ++
        w.client.writeBuf.slice sent ((taken env length (w.time + 1)).getD 0) := by
  simp only [writeEvent, acceptedBytes, taken]
  split
  · rw [Memory.take_slice (Nat.min_le_right _ _)]; rfl
  · rfl

theorem offersInside_writeEvent {sent : Nat} {w : World} {log : List Event}
    (hlog : OffersInside length log) (hsent : sent = 0) :
    OffersInside length (writeEvent env length sent w :: log) := by
  intro offset offered rc sentLen hmem
  rcases List.mem_cons.mp hmem with heq | hmem
  · simp only [writeEvent, Event.netWrite.injEq] at heq
    obtain ⟨rfl, rfl, -, -⟩ := heq
    simp [hsent]
  · exact hlog offset offered rc sentLen hmem

end Pass

/-! ## Senders that are exact -/

section Exact

variable {env : Env} {length : Nat} {timer : Timer} {start : World}

/-- The run since `start` has put the first `sent` bytes of the packet on the
wire, and nothing else was offered. -/
structure SentSoFar (length : Nat) (start : World) (sent : Nat) (w : World) : Prop where
  /-- Sending does not touch the client. -/
  client : w.client = start.client
  /-- No more than the packet was taken. -/
  le : sent ≤ length
  /-- What the log says. -/
  log : ∃ new, w.log = new ++ start.log ∧ OffersInside length new ∧
    acceptedBytes new = start.client.writeBuf.slice 0 sent

/-- A loop whose next pass, if it writes at all, writes from the start of the
packet. -/
def NotAgain (env : Env) (length : Nat) (timer : Timer) (sent : Nat) (w : World) : Prop :=
  sent = 0 ∧ ¬ PartialRetry env length timer w.time ∨ sent = length ∨
    timer ≤ env.clock w.time

theorem SentSoFar.tick {sent : Nat} {w : World} (h : SentSoFar length start sent w) :
    SentSoFar length start sent w.tick := ⟨h.client, h.le, h.log⟩

theorem SentSoFar.since {sent : Nat} {w : World} (h : SentSoFar length start sent w) :
    OffersInside length (start.since w) ∧
      acceptedBytes (start.since w) = start.client.writeBuf.slice 0 sent := by
  obtain ⟨new, hlog, hinside, haccepted⟩ := h.log
  rw [World.since_of_append hlog]
  exact ⟨hinside, haccepted⟩

/-- A pass that writes from the start of the packet extends what was sent. -/
theorem SentSoFar.write {w : World} (h : SentSoFar length start 0 w) (env : Env) :
    SentSoFar length start ((taken env length (w.time + 1)).getD 0)
      (w.tick.tick.push (writeEvent env length 0 w)) := by
  obtain ⟨new, hlog, hinside, haccepted⟩ := h.log
  refine ⟨h.client, ?_, writeEvent env length 0 w :: new, ?_, ?_, ?_⟩
  · unfold taken
    split
    · exact Nat.min_le_right _ _
    · exact Nat.zero_le _
  · simp [hlog]
  · exact offersInside_writeEvent hinside rfl
  · rw [acceptedBytes_writeEvent, haccepted, h.client]
    simp

/-- One pass keeps `SentSoFar`, and `NotAgain` if it asks for another pass. -/
theorem sendPass_sentSoFar {sent : Nat} {w : World} (h : SentSoFar length start sent w)
    (hnot : NotAgain env length timer sent w) :
    (sendPass env length timer sent : M (Step Nat Nat)).Ends w
      (fun r w' => match r with
        | .again sent' => SentSoFar length start sent' w' ∧ NotAgain env length timer sent' w'
        | .stop sent' => SentSoFar length start sent' w')
      (fun _ => False) := by
  rw [ends_sendPass]
  split
  case isFalse => exact h
  case isTrue hlt =>
    split
    case isTrue => exact h.tick
    case isFalse htimer =>
      -- a pass that gets here writes, so it starts from the first byte
      obtain ⟨rfl, hretry⟩ : sent = 0 ∧ ¬ PartialRetry env length timer w.time := by
        rcases hnot with hzero | heq | hexp
        · exact hzero
        · omega
        · exact absurd hexp htimer
      have hwrite := h.write env
      split
      case h_1 hnone => rw [hnone] at hwrite; exact hwrite
      case h_2 k hsome =>
        rw [hsome] at hwrite
        rw [Nat.zero_add]
        refine ⟨hwrite, ?_⟩
        by_cases hk : k = 0
        · subst hk
          exact .inl ⟨rfl, fun hr => hretry (.nothing htimer hsome hr)⟩
        · by_cases hfull : k = length
          · exact .inr (.inl hfull)
          · refine .inr (.inr (Decidable.byContradiction fun hexp => hretry ?_))
            have hle : k ≤ length := hwrite.le
            exact .part htimer hsome (by omega) (by omega) hexp

theorem sendLoop_sentSoFar {sent : Nat} {w : World} (h : SentSoFar length start sent w)
    (hnot : NotAgain env length timer sent w) (fuel : Nat) :
    (loop (sendPass env length timer) fuel sent : M Nat).Ends w
      (fun sent' w' => SentSoFar length start sent' w')
      (fun w' => ∃ sent', SentSoFar length start sent' w') := by
  refine ends_loop (I := fun sent w =>
    SentSoFar length start sent w ∧ NotAgain env length timer sent w) ?_ ?_ fuel sent w ⟨h, hnot⟩
  · intro sent w hI
    refine (sendPass_sentSoFar hI.1 hI.2).mono ?_ (fun _ hF => hF.elim)
    intro r w' hr
    cases r with
    | again sent' => exact hr
    | stop sent' => exact hr
  · intro sent w hI
    exact ⟨sent, hI.1⟩

theorem SentSoFar.complete_iff {sent : Nat} {w : World} (h : SentSoFar length start sent w) :
    acceptedBytes (start.since w) = start.client.writeBuf.slice 0 length ↔ sent = length := by
  rw [h.since.2]
  constructor
  · intro heq
    simpa using congrArg List.length heq
  · rintro rfl; rfl

/-- A run of the loop that got the whole packet out returns, if need be with
more fuel. -/
theorem sendLoop_returns : ∀ (fuel sent : Nat) (w : World), SentSoFar length start sent w →
    NotAgain env length timer sent w →
    acceptedBytes (start.since ((loop (sendPass env length timer) fuel sent : M Nat).run w).state) =
      start.client.writeBuf.slice 0 length →
    ∃ fuel' w', (loop (sendPass env length timer) fuel' sent : M Nat).run w = .done length w' := by
  intro fuel
  induction fuel with
  | zero =>
    intro sent w h _ haccepted
    -- the fuel was spent before a pass that has nothing left to do
    obtain rfl := h.complete_iff.mp haccepted
    refine ⟨1, w, ?_⟩
    have hpass : (sendPass env sent timer sent : M (Step Nat Nat)).run w =
        .done (.stop sent) w := by
      simp [sendPass, run, pure]
    rw [run_loop_succ, hpass]
  | succ n ih =>
    intro sent w h hnot haccepted
    have hpass := sendPass_sentSoFar h hnot
    rw [run_loop_succ] at haccepted
    cases hr : (sendPass env length timer sent : M (Step Nat Nat)).run w with
    | halted w' => exact (hpass.of_halt hr).elim
    | done r w' =>
      have hpost := hpass.of_run hr
      rw [hr] at haccepted
      cases r with
      | again sent' =>
        obtain ⟨fuel', w'', hrun⟩ := ih sent' w' hpost.1 hpost.2 haccepted
        exact ⟨fuel' + 1, w'', by rw [run_loop_succ, hr]; exact hrun⟩
      | stop sent' =>
        obtain rfl := hpost.complete_iff.mp haccepted
        exact ⟨1, w', by rw [run_loop_succ, hr]⟩

/-! ## The whole function -/

/-- The log entry that opens a send. -/
def sendingEvent (length : Nat) (w : World) : Event :=
  .sending (w.client.writeBuf.slice 0 length)

/-- The log entry that closes a successful send. -/
def sentEvent (length : Nat) (w : World) : Event :=
  .sent (w.client.writeBuf.slice 0 length)

theorem ends_sendPacket (hlen : length < start.client.writeBufSize) {fuel : Nat}
    {Q : IoTError → World → Prop} {H : World → Prop} :
    (sendPacket env fuel length timer : M IoTError).Ends start Q H ↔
      (loop (sendPass env length timer) fuel 0 : M Nat).Ends
        (start.push (sendingEvent length start))
        (fun sent w => if sent = length then Q .success (w.push (sentEvent length w))
          else Q .failure w) H := by
  have hge : ¬ length ≥ start.client.writeBufSize := by omega
  simp [sendPacket, hge, sendingEvent, sentEvent]

theorem SentSoFar.sending : SentSoFar length start 0 (start.push (sendingEvent length start)) :=
  ⟨rfl, Nat.zero_le _, [sendingEvent length start], rfl,
    by simp [OffersInside, sendingEvent], by simp [acceptedBytes, sendingEvent]⟩

theorem SentSoFar.sent {sent n : Nat} {w : World} (h : SentSoFar length start sent w) :
    SentSoFar length start sent (w.push (sentEvent n w)) := by
  obtain ⟨new, hlog, hinside, haccepted⟩ := h.log
  refine ⟨h.client, h.le, sentEvent n w :: new, by simp [hlog], ?_, haccepted⟩
  intro offset offered rc sentLen hmem
  exact hinside offset offered rc sentLen (by simpa [sentEvent] using hmem)

/-- Whether `send_packet` returns or not, what it put on the wire is a prefix of the
packet; when it returns, its code says whether it is all of it. -/
theorem sendPacket_sentSoFar (hlen : length < start.client.writeBufSize)
    (hretry : ¬ PartialRetry env length timer start.time) (fuel : Nat) :
    (sendPacket env fuel length timer : M IoTError).Ends start
      (fun rc w => ∃ sent, SentSoFar length start sent w ∧ (rc = .success ↔ sent = length))
      (fun w => ∃ sent, SentSoFar length start sent w) := by
  rw [ends_sendPacket hlen]
  refine (sendLoop_sentSoFar .sending (.inl ⟨rfl, hretry⟩) fuel).mono ?_ (fun _ h => h)
  intro sent w h
  split
  case isTrue hall => exact ⟨sent, h.sent, by simp [hall]⟩
  case isFalse hpart => exact ⟨sent, h, by simp [hpart]⟩

/-- The network never takes a proper part that is followed by another write: then
`send_packet` puts exactly the packet on the wire. -/
theorem sendsExactly_of_not_partialRetry (hlen : length < start.client.writeBufSize)
    (hretry : ¬ PartialRetry env length timer start.time) :
    SendsExactly env length timer start := by
  have hends := fun fuel => sendPacket_sentSoFar hlen hretry fuel
  have hstate : ∀ fuel, ∃ sent,
      SentSoFar length start sent (sendRun env length timer start fuel).state := fun fuel =>
    ends_state_iff.mp ((hends fuel).mono (fun _ _ ⟨sent, h, _⟩ => ⟨sent, h⟩) fun _ h => h)
  refine ⟨?_, ?_, ?_, ?_⟩
  · intro fuel
    obtain ⟨sent, h⟩ := hstate fuel
    rw [h.since.2, ← Memory.take_slice h.le]
    exact List.take_prefix sent _
  · intro fuel
    obtain ⟨sent, h⟩ := hstate fuel
    exact h.since.1
  · intro fuel rc hrc
    cases hr : sendRun env length timer start fuel with
    | halted w => simp [hr, Outcome.value?] at hrc
    | done rc' w =>
      obtain rfl : rc' = rc := by simpa [hr, Outcome.value?] using hrc
      obtain ⟨sent, h, hiff⟩ := (hends fuel).of_run hr
      rw [hiff, Outcome.state_done, h.complete_iff]
  · intro fuel haccepted
    have hloop : (loop (sendPass env length timer) fuel 0 : M Nat).Ends
        (start.push (sendingEvent length start)) (fun sent => SentSoFar length start sent)
        (fun w => ∃ sent, SentSoFar length start sent w) :=
      sendLoop_sentSoFar .sending (.inl ⟨rfl, hretry⟩) fuel
    -- the entry that closes the send took nothing, so the loop got it all out
    have hall : acceptedBytes (start.since ((loop (sendPass env length timer) fuel 0 :
        M Nat).run (start.push (sendingEvent length start))).state) =
          start.client.writeBuf.slice 0 length := by
      rw [← ends_state_iff (P := fun w =>
        acceptedBytes (start.since w) = start.client.writeBuf.slice 0 length)]
      have hsend := (ends_state_iff (P := fun w =>
        acceptedBytes (start.since w) = start.client.writeBuf.slice 0 length)).mpr haccepted
      rw [ends_sendPacket hlen] at hsend
      refine (hsend.and hloop).mono ?_ (fun _ h => h.1)
      intro sent w h
      by_cases heq : sent = length
      · exact h.2.complete_iff.mpr heq
      · simpa [heq] using h.1
    obtain ⟨fuel', w', hrun⟩ := sendLoop_returns fuel 0 _ .sending (.inl ⟨rfl, hretry⟩) hall
    refine ⟨fuel', value?_eq_some_iff.mpr ?_⟩
    rw [ends_sendPacket hlen, ends_iff_run, hrun]
    exact ⟨fun sent w h => by cases h; simp, fun w h => by cases h⟩

/-! ## Senders that are not -/

theorem sendPass_run_write {sent k : Nat} {w : World} (hlt : sent < length)
    (htimer : ¬ timer ≤ env.clock w.time) (htaken : taken env length (w.time + 1) = some k) :
    (sendPass env length timer sent : M (Step Nat Nat)).run w =
      .done (.again (sent + k)) (w.tick.tick.push (writeEvent env length sent w)) := by
  rw [run_eq_done_iff, ends_sendPass]
  simp [hlt, htimer, htaken]

/-- Whatever comes of a pass that writes, its write is logged. -/
theorem sendLoop_logs_write {sent : Nat} {w : World} (hlt : sent < length)
    (htimer : ¬ timer ≤ env.clock w.time) :
    ((loop (sendPass env length timer) 1 sent : M Nat).run w).state.log =
      writeEvent env length sent w :: w.log := by
  refine (ends_state_iff
    (P := fun w' : World => w'.log = writeEvent env length sent w :: w.log)).mp ?_
  refine ends_bind.mpr (ends_sendPass.mpr ?_)
  rw [if_pos hlt, if_neg htimer]
  split <;> simp [loop]

theorem PartialRetry.length_pos {t : Nat} (h : PartialRetry env length timer t) :
    0 < length := by
  induction h with
  | nothing _ _ _ ih => exact ih
  | part _ _ hpos hlt _ => omega

/-- From a partial retry on, some write is offered bytes behind the packet. -/
theorem sendLoop_offers_behind {t : Nat} (hretry : PartialRetry env length timer t) :
    ∀ w, w.time = t → SentSoFar length start 0 w →
      ∃ fuel new, ((loop (sendPass env length timer) fuel 0 : M Nat).run w).state.log =
        new ++ start.log ∧ ¬ OffersInside length new := by
  induction hretry with
  | nothing htimer htaken hrest ih =>
    intro w hw h
    subst hw
    have hwrite := h.write env
    rw [htaken] at hwrite
    obtain ⟨fuel, new, hlog, hbehind⟩ := ih _ rfl hwrite
    refine ⟨fuel + 1, new, ?_, hbehind⟩
    rw [run_loop_succ, sendPass_run_write hrest.length_pos htimer htaken]
    exact hlog
  | @part _ k htimer htaken hpos hlt hagain =>
    intro w hw h
    subst hw
    have hwrite := h.write env
    rw [htaken] at hwrite
    obtain ⟨new, hlog, -, -⟩ := hwrite.log
    have hrun : ((loop (sendPass env length timer) 2 0 : M Nat).run w).state.log =
        writeEvent env length k (w.tick.tick.push (writeEvent env length 0 w)) ::
          (w.tick.tick.push (writeEvent env length 0 w)).log := by
      rw [run_loop_succ, sendPass_run_write (by omega) htimer htaken]
      dsimp only
      rw [Nat.zero_add]
      exact sendLoop_logs_write hlt hagain
    refine ⟨2, _ :: new, by rw [hrun, hlog]; rfl, ?_⟩
    intro hinside
    -- the second write starts at `k` and asks for `length` bytes
    have hle := hinside _ _ _ _ List.mem_cons_self
    simp at hle
    omega

theorem not_sendsExactly_of_partialRetry (hlen : length < start.client.writeBufSize)
    (hretry : PartialRetry env length timer start.time) :
    ¬ SendsExactly env length timer start := by
  intro hexact
  obtain ⟨fuel, new, hlog, hbehind⟩ := sendLoop_offers_behind hretry
    (start.push (sendingEvent length start)) rfl .sending
  apply hbehind
  have hinside := hexact.inside fuel
  -- what the loop logged is part of what the function logged
  have hsub : ∃ l, (sendRun env length timer start fuel).state.log = l ++ (new ++ start.log) := by
    have hloop := (ends_state_iff (P := fun w : World => w.log = new ++ start.log)).mpr hlog
    refine (ends_state_iff (P := fun w : World => ∃ l, w.log = l ++ (new ++ start.log))).mp ?_
    rw [ends_sendPacket hlen]
    refine hloop.mono ?_ (fun w hw => ⟨[], hw⟩)
    intro sent w hw
    split
    · exact ⟨[sentEvent length w], by simp [hw]⟩
    · exact ⟨[], hw⟩
  obtain ⟨l, hl⟩ := hsub
  rw [← List.append_assoc] at hl
  rw [World.since_of_append hl] at hinside
  intro offset offered rc sentLen hmem
  exact hinside offset offered rc sentLen (List.mem_append_right l hmem)

/-- **`send_packet` puts exactly the packet on the wire** if and only if the
network does not take a proper part of it with the timer still running at the
next test of the loop. -/
theorem sendsExactly_iff_not_partialRetry (env : Env) (length : Nat) (timer : Timer)
    (start : World) (hlen : length < start.client.writeBufSize) :
    SendsExactly env length timer start ↔ ¬ PartialRetry env length timer start.time :=
  ⟨fun h hretry => not_sendsExactly_of_partialRetry hlen hretry h,
    sendsExactly_of_not_partialRetry hlen⟩

end Exact

/-- A PINGREQ in the write buffer, ready to be sent. -/
def pingreqWorld : World where
  client := { zeroedClient with
    writeBufSize := 512
    writeBuf := zeroedClient.writeBuf.writeAt 0 [0xC0, 0x00] }
  time := 0
  log := []
  history := []
  shadow := Shadow.zeroedRecords

/-- A network that takes one byte at a time. -/
def bytewiseEnv : Env := { quietEnv with write := fun _ => ⟨.success, 1⟩ }

/-- A network that takes what it is offered gets exactly the PINGREQ. -/
theorem sendsExactly_pingreq : SendsExactly quietEnv 2 20000 pingreqWorld :=
  (sendsExactly_iff_not_partialRetry quietEnv 2 20000 pingreqWorld (by decide)).mpr (by
    intro h
    cases h with
    | nothing _ htaken _ => exact absurd htaken (by decide)
    | part _ htaken _ hlt _ =>
      obtain rfl := Option.some.inj htaken
      exact absurd hlt (by decide))

/-- A network that takes one byte at a time is offered the byte behind the
PINGREQ. -/
theorem not_sendsExactly_bytewise : ¬ SendsExactly bytewiseEnv 2 20000 pingreqWorld := by
  intro h
  have hmem : Event.netWrite 1 [0x00, 0x00] .success 1 ∈
      pingreqWorld.since (sendRun bytewiseEnv 2 20000 pingreqWorld 2).state := by
    decide +kernel
  exact absurd (h.inside 2 _ _ _ _ hmem) (by decide)

end AwsIot.Mqtt
