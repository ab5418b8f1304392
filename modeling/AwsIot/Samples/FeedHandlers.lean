/-
  Samples/FeedHandlers.lean --- the message handlers of the two device programs.

  Both walk the list of feeds for one whose name the payload starts with, and then look for
  "on" and "off" in the payload.  The payload of a message is not terminated: a search that
  does not succeed in it goes on in what is behind it.
-/
import AwsIot.Shadow.AckStatus
import Mathlib.Data.List.GetD
import Mathlib.Data.List.TakeWhile

set_option autoImplicit false

namespace AwsIot.Samples

open AwsIot.Foundation
open AwsIot.Mqtt (strncmpEq)
open AwsIot.Shadow (ascii strstr strstr_iff_occurs)

/-- `FD`, as far as a handler looks at it.  The pin is the number `feedpin` on Linux, and
`feedbase` with `feedpin` on the CC3200. -/
structure Feed (Pin : Type) where
  /-- `feedname`, without the NUL that ends it. -/
  feedname : List UInt8
  /-- The pin of the feed. -/
  pin : Pin
  /-- A name has no NUL in it. -/
  no_nul : 0 ∉ feedname

/-- A feed is turned on or off: `gpioWrite(feedpin, 1)` or `GPIOPinWrite(feedbase, feedpin,
feedpin)`, the same with 0 for off, and a line of the log with the feed's name. -/
structure Turned (Pin : Type) where
  /-- Whose name is logged and whose fields are passed. -/
  feed : Feed Pin
  /-- The pin is written with 1. -/
  on : Bool

/-- The pin that is written, and with what. -/
def Turned.write {Pin : Type} (turned : Turned Pin) : Pin × Bool := (turned.feed.pin, turned.on)

variable {Pin : Type}

/-- The byte `i` places behind the address of a string or an array. -/
def byteAt (bytes : List UInt8) (i : Nat) : UInt8 := bytes.getD i 0

/-- The string that starts with the payload: `beyond` are the bytes behind the payload, up to a
NUL. -/
def payloadString (payload beyond : List UInt8) : List UInt8 :=
  (payload ++ beyond).takeWhile (· ≠ 0)

/-- `!strncmp(params->payload, ptrs->feedname, strlen(ptrs->feedname))`. -/
def startsWithName (payload beyond : List UInt8) (ptrs : Feed Pin) : Bool :=
  strncmpEq (byteAt (payload ++ beyond)) (byteAt ptrs.feedname) ptrs.feedname.length 0

/-- What is done for the feed that the payload starts with. -/
def turn (payload beyond : List UInt8) (ptrs : Feed Pin) : List (Turned Pin) :=
  if strstr (payloadString payload beyond) (ascii "on") then [⟨ptrs, true⟩]
  else if strstr (payloadString payload beyond) (ascii "off") then [⟨ptrs, false⟩]
  else []

/-- A handler on the list of feeds, with the payload and what is behind it, for a number of
turns of its loop: what it turns, if it returns within these. -/
abbrev Handler (Pin : Type) :=
  List (Feed Pin) → List UInt8 → List UInt8 → Nat → Option (List (Turned Pin))

/-- `iot_subscribe_callback_handler`. -/
def iotSubscribeCallbackHandler : Handler Pin
  | _, _, _, 0 => none
  | [], _, _, _ + 1 => some []
  | ptrs :: next, payload, beyond, fuel + 1 =>
      if startsWithName payload beyond ptrs then some (turn payload beyond ptrs)
      else iotSubscribeCallbackHandler next payload beyond fuel

/-- `MQTTcallbackHandler`. -/
def mqttCallbackHandler : Handler Pin
  | _, _, _, 0 => none
  | [], _, _, _ + 1 => some []
  | ptrs :: next, payload, beyond, fuel + 1 =>
      if startsWithName payload beyond ptrs then some (turn payload beyond ptrs)
      -- the loop has no step to the next feed
      else mqttCallbackHandler (ptrs :: next) payload beyond fuel

/-- The device programs. -/
inductive Device where
  /-- The one for Linux. -/
  | linux
  /-- The one for the CC3200. -/
  | cc3200

/-- Its handler. -/
def Device.handler : Device → Handler Pin
  | .linux => iotSubscribeCallbackHandler
  | .cc3200 => mqttCallbackHandler

/-! ## What they should do -/

/-- A list of feeds, as `feedadd` builds it from the configuration. -/
structure FeedList (Pin : Type) where
  /-- The feeds. -/
  feeds : List (Feed Pin)
  /-- They have names. -/
  named : ∀ feed ∈ feeds, feed.feedname ≠ []
  /-- No two have the same. -/
  distinct : (feeds.map Feed.feedname).Nodup

/-- The handler returns and has turned these. -/
def Returns (handler : Handler Pin) (feeds : List (Feed Pin)) (payload beyond : List UInt8)
    (turned : List (Turned Pin)) : Prop :=
  ∃ fuel, handler feeds payload beyond fuel = some turned

/-- The payload that turns a feed on or off. -/
def command (feed : Feed Pin) (on : Bool) : List UInt8 :=
  feed.feedname ++ ascii (if on then " on" else " off")

/-- The payload names the feed: it is its name, alone or in front of a blank. -/
def Names (payload : List UInt8) (feed : Feed Pin) : Prop :=
  payload = feed.feedname ∨ feed.feedname ++ ascii " " <+: payload

/-- The handler does with the payload what it should. -/
structure Obeys (handler : Handler Pin) (feeds : List (Feed Pin)) (payload : List UInt8) :
    Prop where
  /-- It terminates. -/
  terminates : ∀ beyond, ∃ turned, Returns handler feeds payload beyond turned
  /-- A command for a feed writes its pin and no other. -/
  obeyed : ∀ feed ∈ feeds, ∀ on, payload = command feed on → ∀ beyond turned,
    Returns handler feeds payload beyond turned → turned.map Turned.write = [(feed.pin, on)]
  /-- A payload that names no feed writes no pin. -/
  ignored : (∀ feed ∈ feeds, ¬ Names payload feed) → ∀ beyond turned,
    Returns handler feeds payload beyond turned → turned = []
  /-- What is behind the payload does not matter. -/
  confined : ∀ beyond beyond' turned, Returns handler feeds payload beyond turned →
    Returns handler feeds payload beyond' turned

/-! ## Reading the payload -/

/-- `strncmp` over the length of a string without NUL compares its characters. -/
theorem strncmpEq_iff_prefix {bytes string : List UInt8} (hstring : 0 ∉ string) :
    strncmpEq (byteAt bytes) (byteAt string) string.length 0 = true ↔ string <+: bytes := by
  have hfrom : ∀ n i, i + n = string.length →
      (strncmpEq (byteAt bytes) (byteAt string) n i = true ↔ string.drop i <+: bytes.drop i) := by
    intro n
    induction n with
    | zero =>
      intro i hi
      rw [strncmpEq, List.drop_eq_nil_of_le (by omega)]
      exact iff_of_true rfl (List.nil_prefix)
    | succ n ih =>
      intro i hi
      have hlt : i < string.length := by omega
      have hchar : byteAt string i = string[i] := List.getD_eq_getElem _ _ hlt
      have hne : string[i] ≠ 0 := fun h => hstring (h ▸ List.getElem_mem hlt)
      rw [strncmpEq, Bool.and_eq_true, beq_iff_eq, hchar, List.drop_eq_getElem_cons hlt]
      by_cases hinside : i < bytes.length
      · have hbyte : byteAt bytes i = bytes[i] := List.getD_eq_getElem _ _ hinside
        rw [hbyte, List.drop_eq_getElem_cons hinside, List.cons_prefix_cons,
          ← ih (i + 1) (by omega), eq_comm]
        refine and_congr_right fun heq => ?_
        rw [← heq, beq_false_of_ne hne, Bool.false_or]
      · have hbyte : byteAt bytes i = 0 := List.getD_eq_default _ _ (by omega)
        rw [hbyte, List.drop_eq_nil_of_le (by omega : bytes.length ≤ i), List.prefix_nil]
        exact iff_of_false (fun h => hne h.1.symm) (List.cons_ne_nil _ _)
  exact hfrom string.length 0 (Nat.zero_add _)

theorem startsWithName_iff (payload beyond : List UInt8) (feed : Feed Pin) :
    startsWithName payload beyond feed = true ↔ feed.feedname <+: payload ++ beyond :=
  strncmpEq_iff_prefix feed.no_nul

/-- Behind a payload with a NUL nothing is read. -/
theorem payloadString_of_nul {payload : List UInt8} (hnul : 0 ∈ payload) (beyond : List UInt8) :
    payloadString payload beyond = payload.takeWhile (· ≠ 0) := by
  rw [payloadString, List.takeWhile_append]
  refine if_neg fun hlength => ?_
  have hwhole := (List.takeWhile_prefix _).eq_of_length hlength
  exact of_decide_eq_true (List.takeWhile_eq_self_iff.mp hwhole 0 hnul) rfl

/-- Behind a payload without a NUL its string goes on. -/
theorem payloadString_of_no_nul {payload : List UInt8} (hnul : 0 ∉ payload)
    (beyond : List UInt8) :
    payloadString payload beyond = payload ++ beyond.takeWhile (· ≠ 0) :=
  List.takeWhile_append_of_pos fun _ hc => decide_eq_true fun h => hnul (h ▸ hc)

/-! ## What they do -/

/-- What a handler turns that looks at one feed after the other. -/
def answer (feeds : List (Feed Pin)) (payload beyond : List UInt8) : List (Turned Pin) :=
  match feeds.find? (startsWithName payload beyond) with
  | none => []
  | some feed => turn payload beyond feed

/-- The handler of Linux always returns. -/
theorem returns_linux_iff {feeds : List (Feed Pin)} {payload beyond : List UInt8}
    {turned : List (Turned Pin)} :
    Returns iotSubscribeCallbackHandler feeds payload beyond turned ↔
      turned = answer feeds payload beyond := by
  constructor
  · rintro ⟨fuel, hreturn⟩
    induction fuel generalizing feeds with
    | zero => cases feeds <;> cases hreturn
    | succ fuel ih =>
      cases feeds with
      | nil => exact (Option.some.inj hreturn).symm
      | cons ptrs next =>
        rw [iotSubscribeCallbackHandler] at hreturn
        unfold answer
        rw [List.find?_cons]
        cases hstarts : startsWithName payload beyond ptrs with
        | true =>
          rw [hstarts, if_pos rfl] at hreturn
          exact (Option.some.inj hreturn).symm
        | false =>
          rw [hstarts, if_neg Bool.false_ne_true] at hreturn
          exact ih hreturn
  · rintro rfl
    refine ⟨feeds.length + 1, ?_⟩
    induction feeds with
    | nil => rfl
    | cons ptrs next ih =>
      rw [List.length_cons, iotSubscribeCallbackHandler]
      unfold answer at ih ⊢
      rw [List.find?_cons]
      cases hstarts : startsWithName payload beyond ptrs with
      | true => exact if_pos rfl
      | false => exact (if_neg Bool.false_ne_true).trans ih

/-- The handler of the CC3200 returns if there are no feeds or the payload starts with the name
of the first, and then does the same. -/
theorem returns_cc3200_iff {feeds : List (Feed Pin)} {payload beyond : List UInt8}
    {turned : List (Turned Pin)} :
    Returns mqttCallbackHandler feeds payload beyond turned ↔
      (∀ feed, feeds.head? = some feed → feed.feedname <+: payload ++ beyond) ∧
        turned = answer feeds payload beyond := by
  cases feeds with
  | nil =>
    constructor
    · rintro ⟨fuel, hreturn⟩
      cases fuel with
      | zero => cases hreturn
      | succ fuel => exact ⟨fun _ h => (by cases h), (Option.some.inj hreturn).symm⟩
    · rintro ⟨-, rfl⟩
      exact ⟨1, rfl⟩
  | cons ptrs next =>
    have hhead : (∀ feed, (ptrs :: next).head? = some feed → feed.feedname <+: payload ++ beyond) ↔
        startsWithName payload beyond ptrs = true := by
      rw [startsWithName_iff]
      exact ⟨fun h => h ptrs rfl, fun h feed heq => Option.some.inj heq ▸ h⟩
    rw [hhead, answer, List.find?_cons]
    cases hstarts : startsWithName payload beyond ptrs with
    | true =>
      constructor
      · rintro ⟨fuel, hreturn⟩
        cases fuel with
        | zero => cases hreturn
        | succ fuel =>
          rw [mqttCallbackHandler, hstarts, if_pos rfl] at hreturn
          exact ⟨rfl, (Option.some.inj hreturn).symm⟩
      · rintro ⟨-, rfl⟩
        exact ⟨1, by rw [mqttCallbackHandler, hstarts, if_pos rfl]⟩
    | false =>
      refine iff_of_false ?_ fun h => Bool.false_ne_true h.1
      rintro ⟨fuel, hreturn⟩
      induction fuel with
      | zero => cases hreturn
      | succ fuel ih =>
        rw [mqttCallbackHandler, hstarts, if_neg Bool.false_ne_true] at hreturn
        exact ih hreturn

/-- What a handler that looks at all feeds has to do with a payload. -/
structure Answers (feeds : List (Feed Pin)) (payload : List UInt8) : Prop where
  /-- A command for a feed writes its pin and no other. -/
  obeyed : ∀ feed ∈ feeds, ∀ on, payload = command feed on → ∀ beyond,
    (answer feeds payload beyond).map Turned.write = [(feed.pin, on)]
  /-- A payload that names no feed writes no pin. -/
  ignored : (∀ feed ∈ feeds, ¬ Names payload feed) → ∀ beyond, answer feeds payload beyond = []
  /-- What is behind the payload does not matter. -/
  confined : ∀ beyond beyond', answer feeds payload beyond = answer feeds payload beyond'

theorem obeys_linux_iff {feeds : List (Feed Pin)} {payload : List UInt8} :
    Obeys iotSubscribeCallbackHandler feeds payload ↔ Answers feeds payload := by
  constructor
  · intro obeys
    refine ⟨fun feed hfeed on hpayload beyond => ?_, fun hnone beyond => ?_,
      fun beyond beyond' => ?_⟩
    · exact obeys.obeyed feed hfeed on hpayload beyond _ (returns_linux_iff.mpr rfl)
    · exact obeys.ignored hnone beyond _ (returns_linux_iff.mpr rfl)
    · exact returns_linux_iff.mp (obeys.confined beyond beyond' _ (returns_linux_iff.mpr rfl))
  · intro answers
    refine ⟨fun beyond => ⟨_, returns_linux_iff.mpr rfl⟩, ?_, ?_, ?_⟩
    · intro feed hfeed on hpayload beyond turned hreturns
      rw [returns_linux_iff.mp hreturns]
      exact answers.obeyed feed hfeed on hpayload beyond
    · intro hnone beyond turned hreturns
      rw [returns_linux_iff.mp hreturns]
      exact answers.ignored hnone beyond
    · intro beyond beyond' turned hreturns
      rw [returns_linux_iff] at hreturns ⊢
      exact hreturns.trans (answers.confined beyond beyond')

theorem obeys_cc3200_iff {feeds : List (Feed Pin)} {payload : List UInt8} :
    Obeys mqttCallbackHandler feeds payload ↔
      (∀ feed, feeds.head? = some feed → feed.feedname <+: payload) ∧ Answers feeds payload := by
  constructor
  · intro obeys
    have hreturns : ∀ beyond,
        Returns mqttCallbackHandler feeds payload beyond (answer feeds payload beyond) := by
      intro beyond
      obtain ⟨turned, hreturn⟩ := obeys.terminates beyond
      obtain ⟨hhead, rfl⟩ := returns_cc3200_iff.mp hreturn
      exact hreturn
    refine ⟨fun feed hhead => ?_, fun feed hfeed on hpayload beyond => ?_,
      fun hnone beyond => ?_, fun beyond beyond' => ?_⟩
    · have hstarts := (returns_cc3200_iff.mp (hreturns [])).1 feed hhead
      rwa [List.append_nil] at hstarts
    · exact obeys.obeyed feed hfeed on hpayload beyond _ (hreturns beyond)
    · exact obeys.ignored hnone beyond _ (hreturns beyond)
    · exact (returns_cc3200_iff.mp (obeys.confined beyond beyond' _ (hreturns beyond))).2
  · rintro ⟨hhead, answers⟩
    have hreturns : ∀ beyond,
        Returns mqttCallbackHandler feeds payload beyond (answer feeds payload beyond) :=
      fun beyond => returns_cc3200_iff.mpr
        ⟨fun feed h => (hhead feed h).trans (List.prefix_append _ _), rfl⟩
    refine ⟨fun beyond => ⟨_, hreturns beyond⟩, ?_, ?_, ?_⟩
    · intro feed hfeed on hpayload beyond turned hreturn
      rw [(returns_cc3200_iff.mp hreturn).2]
      exact answers.obeyed feed hfeed on hpayload beyond
    · intro hnone beyond turned hreturn
      rw [(returns_cc3200_iff.mp hreturn).2]
      exact answers.ignored hnone beyond
    · intro beyond beyond' turned hreturn
      rw [(returns_cc3200_iff.mp hreturn).2, answers.confined beyond beyond']
      exact hreturns beyond'

/-! ## When they do what they should -/

/-- Neither the payload nor the name of the feed starts with the other. -/
def Apart (payload : List UInt8) (feed : Feed Pin) : Prop :=
  ¬ feed.feedname <+: payload ∧ ¬ payload <+: feed.feedname

/-- A payload without a NUL turns this feed on, and may. -/
structure MayTurnOn (feeds : List (Feed Pin)) (payload : List UInt8) (feed : Feed Pin) :
    Prop where
  /-- It is the first that the payload can be about, however the payload goes on. -/
  first : ∃ before behind, feeds = before ++ feed :: behind ∧
    ∀ earlier ∈ before, Apart payload earlier
  /-- The payload starts with its name. -/
  starts : feed.feedname <+: payload
  /-- There is "on" in the payload. -/
  on : ascii "on" <:+: payload
  /-- The payload names a feed. -/
  named : ∃ other ∈ feeds, Names payload other
  /-- A feed the payload is a command for has the same pin. -/
  own : ∀ other ∈ feeds, payload = command other true → feed.pin = other.pin
  /-- The payload is not a command to turn a feed off. -/
  not_off : ∀ other ∈ feeds, payload ≠ command other false

/-- The payloads with which a handler that looks at all feeds does what it should. -/
def Heard (feeds : List (Feed Pin)) (payload : List UInt8) : Prop :=
  if 0 ∈ payload then
    (∃ feed ∈ feeds, Names payload feed) ∨ (∀ feed ∈ feeds, ¬ feed.feedname <+: payload) ∨
      ¬ ascii "on" <:+: payload.takeWhile (· ≠ 0) ∧ ¬ ascii "off" <:+: payload.takeWhile (· ≠ 0)
  else (∀ feed ∈ feeds, Apart payload feed) ∨ ∃ feed, MayTurnOn feeds payload feed

/-- The payloads with which the handler of the device does what it should. -/
def Device.Hears : Device → List (Feed Pin) → List UInt8 → Prop
  | .linux, feeds, payload => Heard feeds payload
  | .cc3200, feeds, payload =>
      (∀ feed, feeds.head? = some feed → feed.feedname <+: payload) ∧ Heard feeds payload

section
variable {feeds : List (Feed Pin)} {payload beyond : List UInt8}

theorem turn_eq_nil_iff {feed : Feed Pin} :
    turn payload beyond feed = [] ↔ ¬ ascii "on" <:+: payloadString payload beyond ∧
      ¬ ascii "off" <:+: payloadString payload beyond := by
  rw [← strstr_iff_occurs, ← strstr_iff_occurs]
  unfold turn
  split
  case isTrue hon => exact iff_of_false (List.cons_ne_nil _ _) fun h => h.1 hon
  case isFalse hon =>
    split
    case isTrue hoff => exact iff_of_false (List.cons_ne_nil _ _) fun h => h.2 hoff
    case isFalse hoff => exact iff_of_true rfl ⟨hon, hoff⟩

theorem turn_of_on {feed : Feed Pin} (hon : ascii "on" <:+: payloadString payload beyond) :
    turn payload beyond feed = [⟨feed, true⟩] :=
  if_pos (strstr_iff_occurs.mpr hon)

theorem answer_of_none (hnone : ∀ feed ∈ feeds, ¬ feed.feedname <+: payload ++ beyond) :
    answer feeds payload beyond = [] := by
  have hfind : feeds.find? (startsWithName payload beyond) = none :=
    List.find?_eq_none.mpr fun feed hfeed hstarts =>
      hnone feed hfeed ((startsWithName_iff payload beyond feed).mp hstarts)
  rw [answer, hfind]

/-- The first feed whose name the payload and what is behind it start with is turned. -/
theorem answer_of_first {before behind : List (Feed Pin)} {feed : Feed Pin}
    (hbefore : ∀ earlier ∈ before, ¬ earlier.feedname <+: payload ++ beyond)
    (hstarts : feed.feedname <+: payload ++ beyond) :
    answer (before ++ feed :: behind) payload beyond = turn payload beyond feed := by
  have hfind : (before ++ feed :: behind).find? (startsWithName payload beyond) = some feed := by
    refine List.find?_eq_some_iff_append.mpr
      ⟨(startsWithName_iff payload beyond feed).mpr hstarts, before, behind, rfl, ?_⟩
    intro earlier hearlier
    rw [Bool.not_eq_true', Bool.eq_false_iff]
    exact fun h => hbefore earlier hearlier ((startsWithName_iff payload beyond earlier).mp h)
  rw [answer, hfind]

/-- If the name of some feed is there, a first one is. -/
theorem exists_first (hsome : ∃ feed ∈ feeds, feed.feedname <+: payload ++ beyond) :
    ∃ before feed behind, feeds = before ++ feed :: behind ∧
      (∀ earlier ∈ before, ¬ earlier.feedname <+: payload ++ beyond) ∧
      feed.feedname <+: payload ++ beyond := by
  obtain ⟨g, hg, hstarts⟩ := hsome
  have hfind : (feeds.find? (startsWithName payload beyond)).isSome = true :=
    List.find?_isSome.mpr ⟨g, hg, (startsWithName_iff payload beyond g).mpr hstarts⟩
  obtain ⟨feed, hfeed⟩ := Option.isSome_iff_exists.mp hfind
  obtain ⟨hfirst, before, behind, hsplit, hbefore⟩ := List.find?_eq_some_iff_append.mp hfeed
  refine ⟨before, feed, behind, hsplit, fun earlier hearlier h => ?_,
    (startsWithName_iff payload beyond feed).mp hfirst⟩
  have hno := hbefore earlier hearlier
  rw [(startsWithName_iff payload beyond earlier).mpr h] at hno
  cases hno

/-! ### Payloads with a NUL -/

theorem no_nul_command (feed : Feed Pin) (on : Bool) : 0 ∉ command feed on := by
  intro hmem
  rcases List.mem_append.mp hmem with hname | hword
  · exact feed.no_nul hname
  · cases on with
    | true => exact absurd hword (by decide)
    | false => exact absurd hword (by decide)

/-- A name does not reach over a NUL. -/
theorem prefix_append_iff_of_nul (hnul : 0 ∈ payload) (feed : Feed Pin) :
    feed.feedname <+: payload ++ beyond ↔ feed.feedname <+: payload := by
  constructor
  · intro hstarts
    rcases List.prefix_or_prefix_of_prefix hstarts (List.prefix_append payload beyond) with h | h
    · exact h
    · exact absurd (h.subset hnul) feed.no_nul
  · exact fun hstarts => hstarts.trans (List.prefix_append payload beyond)

/-- What is behind a payload with a NUL does not matter. -/
theorem answer_of_nul (hnul : 0 ∈ payload) (beyond : List UInt8) :
    answer feeds payload beyond = answer feeds payload [] := by
  have hstarts : (startsWithName payload beyond : Feed Pin → Bool) =
      startsWithName payload [] := by
    funext feed
    rw [Bool.eq_iff_iff, startsWithName_iff, startsWithName_iff, prefix_append_iff_of_nul hnul,
      prefix_append_iff_of_nul hnul]
  have hturn : (turn payload beyond : Feed Pin → List (Turned Pin)) = turn payload [] := by
    funext feed
    unfold turn
    rw [payloadString_of_nul hnul, payloadString_of_nul hnul]
  rw [answer, answer, hstarts, hturn]

theorem answers_iff_of_nul (hnul : 0 ∈ payload) :
    Answers feeds payload ↔
      (∃ feed ∈ feeds, Names payload feed) ∨ (∀ feed ∈ feeds, ¬ feed.feedname <+: payload) ∨
        ¬ ascii "on" <:+: payload.takeWhile (· ≠ 0) ∧
          ¬ ascii "off" <:+: payload.takeWhile (· ≠ 0) := by
  constructor
  · intro answers
    by_cases hnamed : ∃ feed ∈ feeds, Names payload feed
    · exact Or.inl hnamed
    refine Or.inr ?_
    by_cases hsome : ∃ feed ∈ feeds, feed.feedname <+: payload ++ []
    · obtain ⟨before, feed, behind, rfl, hbefore, hstarts⟩ := exists_first hsome
      have hnil := answers.ignored (fun feed hfeed h => hnamed ⟨feed, hfeed, h⟩) []
      rw [answer_of_first hbefore hstarts, turn_eq_nil_iff, payloadString_of_nul hnul] at hnil
      exact Or.inr hnil
    · rw [List.append_nil] at hsome
      exact Or.inl fun feed hfeed h => hsome ⟨feed, hfeed, h⟩
  · intro hheard
    refine ⟨?_, ?_, ?_⟩
    · rintro feed - on rfl
      exact absurd hnul (no_nul_command feed on)
    · intro hnone beyond
      rw [answer_of_nul hnul]
      rcases hheard with ⟨feed, hfeed, hnames⟩ | hapart | hwords
      · exact absurd hnames (hnone feed hfeed)
      · exact answer_of_none (by rwa [List.append_nil])
      · by_cases hsome : ∃ feed ∈ feeds, feed.feedname <+: payload ++ []
        · obtain ⟨before, feed, behind, rfl, hbefore, hstarts⟩ := exists_first hsome
          rw [answer_of_first hbefore hstarts, turn_eq_nil_iff, payloadString_of_nul hnul]
          exact hwords
        · exact answer_of_none fun feed hfeed h => hsome ⟨feed, hfeed, h⟩
    · intro beyond beyond'
      rw [answer_of_nul hnul, answer_of_nul hnul beyond']

/-! ### Payloads without a NUL -/

/-- "on" behind the payload is found if it is not there before. -/
theorem on_infix_of_beyond (hpayload : 0 ∉ payload) {name : List UInt8} (hname : 0 ∉ name) :
    ascii "on" <:+: payloadString payload (name ++ ascii "on") := by
  have hkept : (name ++ ascii "on").takeWhile (· ≠ 0) = name ++ ascii "on" := by
    refine List.takeWhile_eq_self_iff.mpr fun c hc => decide_eq_true ?_
    rintro rfl
    rcases List.mem_append.mp hc with h | h
    · exact hname h
    · exact absurd h (by decide)
  rw [payloadString_of_no_nul hpayload, hkept]
  exact ((List.suffix_append _ _).trans (List.suffix_append _ _)).isInfix

/-- A feed that the payload may turn on is turned on, whatever is behind the payload. -/
theorem answer_of_mayTurnOn (hpayload : 0 ∉ payload) {feed : Feed Pin}
    (hmay : MayTurnOn feeds payload feed) (beyond : List UInt8) :
    answer feeds payload beyond = [⟨feed, true⟩] := by
  obtain ⟨before, behind, rfl, hbefore⟩ := hmay.first
  rw [answer_of_first ?_ (hmay.starts.trans (List.prefix_append _ _))]
  · refine turn_of_on ?_
    rw [payloadString_of_no_nul hpayload]
    exact hmay.on.trans (List.prefix_append _ _).isInfix
  · intro earlier hearlier hstarts
    rcases List.prefix_or_prefix_of_prefix hstarts (List.prefix_append payload beyond) with h | h
    · exact (hbefore earlier hearlier).1 h
    · exact (hbefore earlier hearlier).2 h

/-- With the rest of a longer name and "on" behind the payload, the first feed whose name is
there is turned on. -/
theorem exists_turned_on (hpayload : 0 ∉ payload) {name : List UInt8} (hname : 0 ∉ name)
    (hsome : ∃ feed ∈ feeds, feed.feedname <+: payload ++ (name ++ ascii "on"))
    (others : List (Feed Pin)) :
    ∃ feed ∈ feeds, answer (feeds ++ others) payload (name ++ ascii "on") = [⟨feed, true⟩] := by
  obtain ⟨before, feed, behind, rfl, hbefore, hstarts⟩ := exists_first hsome
  refine ⟨feed, List.mem_append_right _ List.mem_cons_self, ?_⟩
  rw [List.append_assoc, List.cons_append, answer_of_first hbefore hstarts]
  exact turn_of_on (on_infix_of_beyond hpayload hname)

/-- The rest of a name that is longer than the payload, and that the name is there with it. -/
theorem exists_rest_of_longer {feed : Feed Pin} (hlonger : payload <+: feed.feedname) :
    ∃ rest, 0 ∉ rest ∧ feed.feedname <+: payload ++ (rest ++ ascii "on") := by
  obtain ⟨rest, hrest⟩ := hlonger
  refine ⟨rest, fun hmem => feed.no_nul (hrest ▸ List.mem_append_right _ hmem), ascii "on", ?_⟩
  rw [← hrest, List.append_assoc]

theorem mayTurnOn_of_answers (hpayload : 0 ∉ payload) (answers : Answers feeds payload)
    (hsome : ∃ feed ∈ feeds, feed.feedname <+: payload ++ []) :
    ∃ feed, MayTurnOn feeds payload feed := by
  obtain ⟨before, feed, behind, rfl, hbefore, hstarts⟩ := exists_first hsome
  have hstring : payloadString payload [] = payload :=
    (payloadString_of_no_nul hpayload []).trans (List.append_nil payload)
  have hanswer : answer (before ++ feed :: behind) payload [] = turn payload [] feed :=
    answer_of_first hbefore hstarts
  have hon : ascii "on" <:+: payload := by
    -- otherwise an "on" behind the payload makes a difference
    by_contra hno
    obtain ⟨other, -, hother⟩ := @exists_turned_on _ _ _ hpayload [] List.not_mem_nil
      ⟨feed, List.mem_append_right _ List.mem_cons_self,
        (List.append_nil payload ▸ hstarts).trans (List.prefix_append _ _)⟩ []
    rw [List.append_nil, ← answers.confined [], hanswer, turn, hstring,
      if_neg (fun h => hno (strstr_iff_occurs.mp h))] at hother
    split at hother
    case isTrue => cases hother
    case isFalse => cases hother
  have hturned : answer (before ++ feed :: behind) payload [] = [⟨feed, true⟩] := by
    rw [hanswer, turn_of_on (by rw [hstring]; exact hon)]
  refine ⟨feed, ⟨before, behind, rfl, fun earlier hearlier => ⟨?_, fun hlonger => ?_⟩⟩, ?_, hon,
    ?_, ?_, ?_⟩
  · exact fun h => hbefore earlier hearlier (h.trans (List.prefix_append _ _))
  · -- a longer name in front of it is there if the payload goes on with its rest
    obtain ⟨rest, hrest, hthere⟩ := exists_rest_of_longer hlonger
    obtain ⟨other, hmem, hother⟩ :=
      exists_turned_on hpayload hrest ⟨earlier, hearlier, hthere⟩ (feed :: behind)
    rw [← answers.confined [], hturned] at hother
    cases hother
    exact hbefore feed hmem hstarts
  · exact List.append_nil payload ▸ hstarts
  · by_contra hnone
    have hnil := answers.ignored (fun other hmem h => hnone ⟨other, hmem, h⟩) []
    rw [hturned] at hnil
    cases hnil
  · intro other hmem hcommand
    have hwrites := answers.obeyed other hmem true hcommand []
    rw [hturned] at hwrites
    exact congrArg Prod.fst (List.head_eq_of_cons_eq hwrites)
  · intro other hmem hcommand
    have hwrites := answers.obeyed other hmem false hcommand []
    rw [hturned] at hwrites
    cases congrArg Prod.snd (List.head_eq_of_cons_eq hwrites)

theorem answers_iff_of_no_nul (hpayload : 0 ∉ payload) :
    Answers feeds payload ↔
      (∀ feed ∈ feeds, Apart payload feed) ∨ ∃ feed, MayTurnOn feeds payload feed := by
  constructor
  · intro answers
    by_cases hsome : ∃ feed ∈ feeds, feed.feedname <+: payload ++ []
    · exact Or.inr (mayTurnOn_of_answers hpayload answers hsome)
    refine Or.inl fun feed hfeed => ⟨fun h => ?_, fun hlonger => ?_⟩
    · exact hsome ⟨feed, hfeed, h.trans (List.prefix_append _ _)⟩
    · obtain ⟨rest, hrest, hthere⟩ := exists_rest_of_longer hlonger
      obtain ⟨other, -, hother⟩ := exists_turned_on hpayload hrest ⟨feed, hfeed, hthere⟩ []
      rw [List.append_nil, ← answers.confined [],
        answer_of_none fun f hf h => hsome ⟨f, hf, h⟩] at hother
      cases hother
  · rintro (hapart | ⟨feed, hmay⟩)
    · have hanswer : ∀ beyond, answer feeds payload beyond = [] := by
        refine fun beyond => answer_of_none fun feed hfeed hstarts => ?_
        rcases List.prefix_or_prefix_of_prefix hstarts (List.prefix_append payload beyond)
          with h | h
        · exact (hapart feed hfeed).1 h
        · exact (hapart feed hfeed).2 h
      refine ⟨?_, fun _ => hanswer, fun beyond beyond' => by rw [hanswer, hanswer]⟩
      rintro feed hfeed on rfl
      exact absurd (List.prefix_append _ _) (hapart feed hfeed).1
    · have hanswer := answer_of_mayTurnOn hpayload hmay
      refine ⟨?_, fun hnone => ?_, fun beyond beyond' => by rw [hanswer, hanswer]⟩
      · intro other hmem on hcommand beyond
        rw [hanswer]
        cases on with
        | true => exact congrArg (fun pin => [(pin, true)]) (hmay.own other hmem hcommand)
        | false => exact absurd hcommand (hmay.not_off other hmem)
      · obtain ⟨other, hmem, hnames⟩ := hmay.named
        exact absurd hnames (hnone other hmem)

theorem answers_iff_heard : Answers feeds payload ↔ Heard feeds payload := by
  unfold Heard
  split
  case isTrue hnul => exact answers_iff_of_nul hnul
  case isFalse hnul => exact answers_iff_of_no_nul hnul

end

/-- The handler of a device program does with a payload what it should, on any list of feeds,
if and only if the device hears it. -/
theorem handler_obeys_iff (device : Device) (list : FeedList Pin) (payload : List UInt8) :
    Obeys device.handler list.feeds payload ↔ device.Hears list.feeds payload := by
  cases device with
  | linux => exact obeys_linux_iff.trans answers_iff_heard
  | cc3200 => exact obeys_cc3200_iff.trans (and_congr_right fun _ => answers_iff_heard)

/-! ### Two feeds -/

/-- The first feed of the configuration. -/
def feed1 : Feed Nat := ⟨ascii "feed1", 3, by decide⟩

/-- The second one. -/
def feed2 : Feed Nat := ⟨ascii "feed2", 5, by decide⟩

/-- Both. -/
def twoFeeds : FeedList Nat where
  feeds := [feed1, feed2]
  named := by
    intro feed hfeed
    rcases List.mem_cons.mp hfeed with rfl | hfeed
    · decide
    · rw [List.mem_singleton.mp hfeed]
      decide
  distinct := by decide

/-- With "on" behind the payload, "feed1 off" turns the feed on; and the handler of the CC3200
never returns from "feed2 on". -/
theorem not_every_command_obeyed :
    (Returns Device.linux.handler twoFeeds.feeds (command feed1 false) (ascii " on")
        [⟨feed1, true⟩] ∧
      ¬ Obeys Device.linux.handler twoFeeds.feeds (command feed1 false)) ∧
    ((∀ turned, ¬ Returns Device.cc3200.handler twoFeeds.feeds (command feed2 true) [] turned) ∧
      ¬ Obeys Device.cc3200.handler twoFeeds.feeds (command feed2 true)) := by
  have hturned : Returns Device.linux.handler twoFeeds.feeds (command feed1 false) (ascii " on")
      [⟨feed1, true⟩] := ⟨1, rfl⟩
  have hnever : ∀ turned,
      ¬ Returns Device.cc3200.handler twoFeeds.feeds (command feed2 true) [] turned :=
    fun turned hreturns =>
      absurd ((returns_cc3200_iff.mp hreturns).1 feed1 rfl) (by decide)
  refine ⟨⟨hturned, fun obeys => ?_⟩, hnever, fun obeys => ?_⟩
  · have hwrites := obeys.obeyed feed1 List.mem_cons_self false rfl _ _ hturned
    cases congrArg Prod.snd (List.head_eq_of_cons_eq hwrites)
  · obtain ⟨turned, hreturns⟩ := obeys.terminates []
    exact hnever turned hreturns

end AwsIot.Samples
