/-
  Shadow/BuilderBounds.lean --- where the builder stores.

  The size that is given to `snprintf` for a value is the one from in front of the key, and
  that for the brace that closes a section is the one from in front of the last member.
  What is left out of account by them is what can be stored behind the array.  Beyond that
  a store past the end of the array is never undone, so that one of them decides.
-/
import AwsIot.Shadow.BuilderMembers

set_option autoImplicit false

namespace AwsIot.Shadow

open AwsIot.Foundation AwsIot.Mqtt Program

variable {env : BuilderEnv} {d : Draft} {max size length : Nat} {count : UInt8}

/-! ## Stores are not undone -/

/-- Nothing that was stored is forgotten. -/
def Extends (d d' : Draft) : Prop := d.buffer.extent ≤ d'.buffer.extent

instance : IsPreorder Draft Extends where
  refl _ := Nat.le_refl _
  trans _ _ _ := Nat.le_trans

theorem keeps_snprintfChecked (offset size : Nat) (s : CString) :
    Keeps Extends (snprintfChecked offset size s) :=
  fun _ => ends_snprintfChecked.mpr TextBuffer.extent_le_print

theorem keeps_strlen : Keeps Extends strlen := fun _ => Nat.le_refl _

theorem keeps_lastOffset : Keeps Extends lastOffset :=
  (keeps_compositional Extends).bind keeps_strlen fun _ =>
    (keeps_compositional Extends).ite (fun _ => (keeps_compositional Extends).halt)
      fun _ => (keeps_compositional Extends).pure _

theorem keeps_addMember (env : BuilderEnv) (size : Nat) (m : JsonMember) :
    Keeps Extends (addMember env size m) := by
  have hkeeps := keeps_compositional (σ := Draft) Extends
  refine hkeeps.bind keeps_strlen fun _ => hkeeps.bind (keeps_snprintfChecked _ _ _) fun _ =>
    hkeeps.ite (fun _ => hkeeps.pure _) fun _ => ?_
  split
  · refine hkeeps.ite (fun _ => hkeeps.pure _) fun _ => ?_
    split
    · exact hkeeps.bind keeps_strlen fun _ => keeps_snprintfChecked _ _ _
    · exact hkeeps.pure _
  · exact hkeeps.pure _

theorem keeps_addMembers (env : BuilderEnv) (max : Nat) (count : UInt8) :
    ∀ (arguments : List (Option JsonMember)) (i : Int8) (size : Nat),
      Keeps Extends (addMembers env max count arguments i size) := by
  have hkeeps := keeps_compositional (σ := Draft) Extends
  have hclose (size : Nat) := hkeeps.bind keeps_lastOffset fun offset =>
    keeps_snprintfChecked offset size (cString "\x7d,")
  intro arguments
  induction arguments with
  | nil =>
    intro i size
    rw [addMembers]
    exact hkeeps.ite (fun _ => hkeeps.bind keeps_strlen fun _ =>
      hkeeps.ite (fun _ => hkeeps.pure _) fun _ => hkeeps.halt) fun _ => hclose size
  | cons argument arguments ih =>
    intro i size
    rw [addMembers]
    refine hkeeps.ite (fun _ => hkeeps.bind keeps_strlen fun _ =>
      hkeeps.ite (fun _ => hkeeps.pure _) fun _ => hkeeps.bind (fun _ => Nat.le_refl _) fun _ => ?_)
      fun _ => hclose size
    cases argument with
    | none => exact hkeeps.pure _
    | some m =>
      exact hkeeps.bind (keeps_addMember env _ m) fun _ =>
        hkeeps.ite (fun _ => hkeeps.pure _) fun _ => ih _ _

/-! ## Staying in the array -/

/-- Nothing behind the array was stored, and if the call returns SUCCESS then a NUL in the
array ends the document, which is `whole`. -/
def Inside (max : Nat) (whole : CString) (rc : IoTError) (d : Draft) : Prop :=
  d.buffer.extent ≤ max ∧
    (rc = .success → d.buffer.text.length < max ∧ d.buffer.text = whole)

theorem inside_of_ne_success {whole : CString} {rc : IoTError} (hrc : rc ≠ .success)
    (hextent : d.buffer.extent ≤ max) : Inside max whole rc d :=
  ⟨hextent, fun h => absurd h hrc⟩

/-- After a store behind the array no call stays in it. -/
theorem not_inside_of_keeps {p : Program Draft IoTError} (hkeeps : Keeps Extends p)
    (hextent : max < d.buffer.extent) (whole : CString) :
    ¬ p.Ends d (Inside max whole) (fun _ => False) := by
  intro hends
  obtain ⟨rc, d', -, hinside, hextends⟩ := exists_run_of_ends
    (Ends.and hends (hkeeps d) |>.mono (fun _ _ h => h) fun _ h => h.1)
  exact absurd (Nat.le_trans hextends hinside.1) (Nat.not_le_of_lt hextent)

/-- The loop over the members stays in the array: a member whose key fits fits with its
value, and when all are added the counter ends the loop and there is room for two more
characters.  `length` is that of the document. -/
def MembersFit (env : BuilderEnv) (max : Nat) (count : UInt8) :
    List (Option JsonMember) → Nat → Prop
  | [], length => if count.toNat ≤ 127 then length + 2 ≤ max else max ≤ length + 1
  | argument :: arguments, length => max ≤ length + 1 ∨
      match argument with
      | none => True
      | some m => ¬ m.Overruns env (max - length) ∧ (m.Added env (max - length) →
          MembersFit env max count arguments (length + (memberText env m).length))

theorem membersFit_some_iff {m : JsonMember} {arguments : List (Option JsonMember)} :
    MembersFit env max count (some m :: arguments) length ↔ max ≤ length + 1 ∨
      (¬ m.Overruns env (max - length) ∧ (m.Added env (max - length) →
        MembersFit env max count arguments (length + (memberText env m).length))) := Iff.rfl

/-- What the arguments are printed as. -/
def argumentsText (env : BuilderEnv) (arguments : List (Option JsonMember)) : CString :=
  membersText env (arguments.filterMap id)

/-- A member that is added fits. -/
theorem JsonMember.Added.length_lt {m : JsonMember} (h : m.Added env size) :
    (memberText env m).length < size := by
  obtain ⟨pKey, pData⟩ := m
  obtain ⟨hkey, -, data, rfl, hvalue⟩ := h
  unfold memberText
  rw [Option.bind_some]
  cases hprinted : data.printed env with
  | none => exact hkey.1
  | some s =>
    rw [CString.length_append]
    exact (hvalue s hprinted).1

theorem addMembers_inside_iff (hmax : max < 2 ^ env.sizeBits) :
    ∀ (arguments : List (Option JsonMember)) (k size : Nat) (d : Draft),
      k + arguments.length = count.toNat → 2 < size → 0 < d.buffer.text.length →
      d.buffer.text.length ≤ max → d.buffer.extent ≤ max →
      ((addMembers env max count arguments (Int8.ofNat k) size).Ends d
        (Inside max (closeText (d.buffer.text ++ argumentsText env arguments)))
        (fun _ => False) ↔ MembersFit env max count arguments d.buffer.text.length) := by
  intro arguments
  induction arguments with
  | nil =>
    intro k size d hk hsize hlength hle hextent
    obtain rfl : k = count.toNat := hk
    rw [MembersFit]
    split
    case isTrue hsmall =>
      rw [ends_of_run_eq (run_addMembers_close hsmall hlength hsize)]
      have hclosed : (closeText d.buffer.text).length = d.buffer.text.length + 1 := by
        rw [closeText, CString.length_append, CString.length_take]
        have hclose : (cString "\x7d,").length = 2 := by decide
        omega
      constructor
      · rintro ⟨hend, -⟩
        exact Nat.le_trans (Nat.le_max_right _ _) hend
      · intro hroom
        refine ⟨Nat.max_le.mpr ⟨hextent, hroom⟩, fun _ => ⟨?_, ?_⟩⟩
        · show (closeText d.buffer.text).length < max
          omega
        · exact congrArg closeText (CString.append_default _).symm
    case isFalse hlarge =>
      by_cases hroom : d.buffer.text.length + 1 < max
      · rw [ends_addMembers_missing hmax (Nat.le_refl _) (.inr (by omega)) hroom]
        exact ⟨False.elim, fun h => absurd h (by omega)⟩
      · rw [ends_addMembers_full hmax (Nat.le_refl _) (.inr (by omega)) hle (by omega)]
        exact ⟨fun _ => by omega, fun _ => inside_of_ne_success (by decide) hextent⟩
  | cons argument arguments ih =>
    intro k size d hk hsize hlength hle hextent
    rw [List.length_cons] at hk
    by_cases hroom : d.buffer.text.length + 1 < max
    case neg =>
      rw [ends_addMembers_full hmax (by omega) (.inl (by omega)) hle (by omega)]
      refine iff_of_true (inside_of_ne_success (by decide) hextent) ?_
      cases argument <;> exact .inl (by omega)
    case pos =>
      cases argument with
      | none =>
        rw [ends_addMembers_null hmax (by omega) hroom]
        exact iff_of_true (inside_of_ne_success (by decide) hextent) (.inr trivial)
      | some m =>
        rw [ends_addMembers_some hmax (by omega) hroom, membersFit_some_iff,
          or_iff_right (by omega)]
        have hsize : d.buffer.text.length + (max - d.buffer.text.length) ≤ max := by omega
        by_cases hoverruns : m.Overruns env (max - d.buffer.text.length)
        case pos =>
          refine iff_of_false (fun hends => ?_) fun h => h.1 hoverruns
          obtain ⟨rc, d', hrun, hbehind⟩ :=
            exists_run_of_ends (addMember_overruns (d := d.read 1) hoverruns)
          rw [ends_of_run_eq hrun] at hends
          have hextent' : max < d'.buffer.extent :=
            Nat.lt_of_le_of_lt (by rw [Draft.text_read]; omega) hbehind
          split at hends
          · exact absurd hends.1 (Nat.not_le_of_lt hextent')
          · exact not_inside_of_keeps (keeps_addMembers env max count _ _ _) hextent' _ hends
        case neg =>
          by_cases hadded : m.Added env (max - d.buffer.text.length)
          case neg =>
            refine iff_of_true ?_ ⟨hoverruns, fun h => absurd h hadded⟩
            refine (addMember_stops (d := d.read 1) hadded hoverruns (by omega) hsize
              hextent).mono ?_ fun _ h => h
            intro rc d' h
            rw [if_pos h.1]
            exact inside_of_ne_success h.1 h.2
          case pos =>
            have hlt := hadded.length_lt
            rw [ends_of_run_eq (run_addMember_added hadded), if_neg (by simp)]
            have hthree := three_le_length_memberText env m
            have hrest := ih (k + 1) (max - d.buffer.text.length)
              ((d.read 1).append (memberText env m)) (by omega) (by omega)
            rw [Draft.text_append, Draft.text_read, CString.length_append,
              CString.append_assoc] at hrest
            rw [and_iff_right hoverruns, forall_prop_of_true hadded]
            exact hrest (by omega) (by omega) (Nat.max_le.mpr
              ⟨hextent, by rw [Draft.text_read]; omega⟩)

/-! ## The calls -/

/-- A call of the builder; a caller passes as many arguments as it counts. -/
inductive BuilderCall where
  | init
  | add (part : Section) (arguments : List (Option JsonMember)) (hcount : arguments.length < 256)
  | finalize

/-- The function that is called. -/
def BuilderCall.run (env : BuilderEnv) (max : Nat) : BuilderCall → Program Draft IoTError
  | .init => initJsonDocument max
  | .add .desired arguments _ => addDesired env max (UInt8.ofNat arguments.length) arguments
  | .add .reported arguments _ => addReported env max (UInt8.ofNat arguments.length) arguments
  | .finalize => finalizeJsonDocument env max

/-- The document that the call is to make of `d` when nothing is cut off. -/
def BuilderCall.whole (env : BuilderEnv) (d : Draft) : BuilderCall → CString
  | .init => stateOpening
  | .add part arguments _ =>
      closeText (d.buffer.text ++ part.opening ++ argumentsText env arguments)
  | .finalize =>
      d.buffer.text.take (d.buffer.text.length - 1) ++ tokenOpening ++
        clientToken env d.clientTokenNum ++ cString "\"\x7d" noNul_ending

/-- The draft before the first store of a call. -/
def Draft.untouched (d : Draft) : Draft := { d with buffer := { d.buffer with extent := 0 } }

/-- The call stores nothing behind the array, and if it returns SUCCESS then a NUL in the array
ends the document, of which nothing was cut off. -/
def StaysInArray (env : BuilderEnv) (max : Nat) (call : BuilderCall) (d : Draft) : Prop :=
  ∃ rc d', (call.run env max).run d.untouched = .done rc d' ∧
    Inside max (call.whole env d) rc d'

/-- The document fits the array, and what is added to it fits what is left: in a section, a
member fits together with its key whenever the key does. -/
def BuilderCall.Fits (env : BuilderEnv) (max : Nat) (d : Draft) : BuilderCall → Prop
  | .init => True
  | .add part arguments _ => d.buffer.text.length ≤ max ∧
      (d.buffer.text.length + part.opening.length < max →
        MembersFit env max (UInt8.ofNat arguments.length) arguments
          (d.buffer.text.length + part.opening.length))
  | .finalize => d.buffer.text.length ≤ max ∧ (d.buffer.text.length = 0 → max ≤ 1)

theorem staysInArray_iff_ends {call : BuilderCall} : StaysInArray env max call d ↔
    (call.run env max).Ends d.untouched (Inside max (call.whole env d)) (fun _ => False) := by
  constructor
  · rintro ⟨rc, d', hrun, hinside⟩
    exact (ends_of_run_eq hrun).mpr hinside
  · exact exists_run_of_ends

theorem init_staysInArray : StaysInArray env max .init d := by
  rw [staysInArray_iff_ends]
  show (snprintfChecked 0 max _).Ends _ _ _
  rw [ends_snprintfChecked]
  refine ⟨?_, fun hcheck => ?_⟩
  · rcases Nat.eq_zero_or_pos max with rfl | hpositive
    · exact Nat.le_refl 0
    · exact extent_snprintf_le hpositive (by omega) (Nat.zero_le _)
  · obtain ⟨hsize, -⟩ := check_printResult_iff.mp hcheck
    have htext : (d.untouched.buffer.print 0 max stateOpening).text = stateOpening := by
      rw [TextBuffer.text_print hsize]
      rfl
    rw [htext]
    exact ⟨hsize, rfl⟩

/-- The size that is left when the document is longer than the array. -/
theorem two_le_remSizeOfJsonBuffer (hlt : max < length) (hlength : length + 1 < 2 ^ env.sizeBits) :
    2 ≤ remSizeOfJsonBuffer env max length := by
  have hbound : (length : Int) + 1 < 2 ^ env.sizeBits := by exact_mod_cast hlength
  rw [remSizeOfJsonBuffer, ← Int.add_emod_right, Int.emod_eq_of_lt (by omega) (by omega)]
  omega

theorem addSection_staysInArray_iff (hmax : max < 2 ^ env.sizeBits)
    (hmemory : d.buffer.text.length + 1 < 2 ^ env.sizeBits) (part : Section)
    {arguments : List (Option JsonMember)} (hcount : arguments.length = count.toNat) :
    (addSection env part max count arguments).Ends d.untouched
      (Inside max (closeText (d.buffer.text ++ part.opening ++ argumentsText env arguments)))
      (fun _ => False) ↔
    d.buffer.text.length ≤ max ∧ (d.buffer.text.length + part.opening.length < max →
      MembersFit env max count arguments (d.buffer.text.length + part.opening.length)) := by
  obtain ⟨hopening, hint⟩ := part.length_opening_bounds
  rw [addSection, ends_bind, ends_strlen]
  have hlength : d.untouched.buffer.text.length = d.buffer.text.length := rfl
  rcases Nat.lt_or_ge max d.buffer.text.length with hlt | hle
  · -- the size wraps around, and the first character is stored behind the array
    have hsize := two_le_remSizeOfJsonBuffer hlt hmemory
    refine iff_of_false (fun hends => ?_) fun h => absurd hlt (Nat.not_lt_of_le h.1)
    rw [hlength, if_neg (by omega), ends_bind, ends_snprintfChecked] at hends
    have hextent : max < (d.untouched.buffer.print d.buffer.text.length
        (remSizeOfJsonBuffer env max d.buffer.text.length) part.opening).extent := by
      rw [← Nat.not_le, TextBuffer.extent_print_le_iff (by omega)]
      omega
    rw [ends_ite] at hends
    split at hends
    · exact absurd hends.1 (Nat.not_le_of_lt hextent)
    · exact not_inside_of_keeps (keeps_addMembers env max count _ _ _) hextent _ hends
  · rw [hlength, remSizeOfJsonBuffer_of_le hle hmax, and_iff_right hle]
    by_cases hroom : d.buffer.text.length + part.opening.length < max
    case neg =>
      refine iff_of_true ?_ fun h => absurd h hroom
      by_cases hsize : max - d.buffer.text.length ≤ 1
      · rw [if_pos hsize]
        exact inside_of_ne_success (by decide) (Nat.zero_le _)
      · have hcheck := mt check_printResult_iff.mp
          (fun h : part.opening.length < max - d.buffer.text.length ∧ _ => hroom (by omega))
        rw [if_neg hsize, ends_bind, ends_snprintfChecked, if_pos hcheck]
        exact inside_of_ne_success hcheck
          (extent_snprintf_le (by omega) (by omega) (Nat.zero_le _))
    case pos =>
      have hsize : part.opening.length < max - d.untouched.buffer.text.length := by omega
      have hloop := addMembers_inside_iff hmax arguments 0 (max - d.buffer.text.length)
        (d.untouched.append part.opening) (show 0 + _ = count.toNat by omega) (by omega)
      rw [Draft.text_append, CString.length_append, hlength] at hloop
      rw [forall_prop_of_true hroom, if_neg (by omega), ends_bind, ← hlength,
        ends_of_run_eq (run_snprintfChecked hsize hint), if_neg (by simp)]
      exact hloop (by omega) (by omega) (Nat.max_le.mpr ⟨Nat.zero_le _, by omega⟩)

theorem keeps_fillWithClientTokenSize (env : BuilderEnv) (offset size : Nat) :
    Keeps Extends (fillWithClientTokenSize env offset size) :=
  fun _ => ends_fillWithClientTokenSize.mpr TextBuffer.extent_le_print

theorem keeps_closeDocument (env : BuilderEnv) (max : Nat) :
    Keeps Extends (closeDocument env max) := by
  have hkeeps := keeps_compositional (σ := Draft) Extends
  exact hkeeps.bind keeps_strlen fun _ => hkeeps.ite (fun _ => hkeeps.pure _) fun _ =>
    hkeeps.bind keeps_strlen fun _ => keeps_snprintfChecked _ _ _

theorem keeps_finalizeToken (env : BuilderEnv) (max : Nat) :
    Keeps Extends (finalizeToken env max) := by
  have hkeeps := keeps_compositional (σ := Draft) Extends
  exact hkeeps.bind keeps_strlen fun _ => hkeeps.ite (fun _ => hkeeps.pure _) fun _ =>
    hkeeps.bind keeps_strlen fun _ => hkeeps.bind (keeps_fillWithClientTokenSize _ _ _)
      fun _ => hkeeps.ite (fun _ => hkeeps.pure _) fun _ => keeps_closeDocument _ _

theorem closeDocument_inside {whole : CString} (hmax : max < 2 ^ env.sizeBits)
    (hle : d.buffer.text.length ≤ max) (hextent : d.buffer.extent ≤ max)
    (hwhole : whole = d.buffer.text ++ cString "\"\x7d") :
    (closeDocument env max).Ends d (Inside max whole) (fun _ => False) := by
  rw [closeDocument, ends_bind, ends_strlen, remSizeOfJsonBuffer_of_le hle hmax, ends_ite]
  split
  case isTrue => exact inside_of_ne_success (by decide) hextent
  case isFalse hsize =>
    rw [ends_bind, ends_strlen, ends_snprintfChecked]
    refine ⟨extent_snprintf_le (by omega) (by omega) hextent, fun hcheck => ?_⟩
    obtain ⟨hfits, -⟩ := check_printResult_iff.mp hcheck
    rw [TextBuffer.text_print_length hfits, hwhole, CString.length_append]
    exact ⟨by omega, rfl⟩

theorem finalizeToken_inside {whole : CString} (hmax : max < 2 ^ env.sizeBits)
    (hlt : d.buffer.text.length + 1 < max) (hextent : d.buffer.extent ≤ max)
    (hwhole : whole = d.buffer.text ++ clientToken env d.clientTokenNum ++ cString "\"\x7d") :
    (finalizeToken env max).Ends d (Inside max whole) (fun _ => False) := by
  rw [finalizeToken, ends_bind, ends_strlen, remSizeOfJsonBuffer_of_le (by omega) hmax,
    if_neg (by omega), ends_bind, ends_strlen, ends_bind, ends_fillWithClientTokenSize, ends_ite]
  have hextent' : (d.buffer.print d.buffer.text.length (max - d.buffer.text.length)
      (clientToken env d.clientTokenNum)).extent ≤ max :=
    extent_snprintf_le (by omega) (by omega) hextent
  split
  case isTrue hcheck => exact inside_of_ne_success hcheck hextent'
  case isFalse hcheck =>
    obtain ⟨hfits, -⟩ := check_printResult_iff.mp (not_not.mp hcheck)
    refine closeDocument_inside hmax ?_ hextent' ?_
    · rw [TextBuffer.text_print_length hfits, CString.length_append]
      omega
    · rw [TextBuffer.text_print_length hfits]
      exact hwhole

theorem finalize_staysInArray_iff (hmax : max < 2 ^ env.sizeBits)
    (hmemory : d.buffer.text.length + 1 < 2 ^ env.sizeBits) :
    StaysInArray env max .finalize d ↔
      d.buffer.text.length ≤ max ∧ (d.buffer.text.length = 0 → max ≤ 1) := by
  rw [staysInArray_iff_ends]
  show (finalizeJsonDocument env max).Ends _ _ _ ↔ _
  have hlength : d.untouched.buffer.text.length = d.buffer.text.length := rfl
  rw [finalizeJsonDocument, ends_bind, ends_strlen, hlength]
  have hopening : tokenOpening.length = 18 := by decide
  rcases Nat.lt_or_ge max d.buffer.text.length with hlt | hle
  · have hsize := two_le_remSizeOfJsonBuffer hlt hmemory
    refine iff_of_false (fun hends => ?_) fun h => absurd hlt (Nat.not_lt_of_le h.1)
    rw [if_neg (by omega), ends_bind, ends_lastOffset, hlength, if_neg (by omega), ends_bind,
      ends_snprintfChecked] at hends
    have hextent : max < (d.untouched.buffer.print (d.buffer.text.length - 1)
        (remSizeOfJsonBuffer env max d.buffer.text.length) tokenOpening).extent := by
      rw [← Nat.not_le, TextBuffer.extent_print_le_iff (by omega)]
      omega
    rw [ends_ite] at hends
    split at hends
    · exact absurd hends.1 (Nat.not_le_of_lt hextent)
    · exact not_inside_of_keeps (keeps_finalizeToken env max) hextent _ hends
  · rw [remSizeOfJsonBuffer_of_le hle hmax, and_iff_right hle]
    by_cases hsize : max - d.buffer.text.length ≤ 1
    case pos =>
      rw [if_pos hsize]
      exact iff_of_true (inside_of_ne_success (by decide) (Nat.zero_le _)) fun h => by omega
    case neg =>
      rw [if_neg hsize, ends_bind, ends_lastOffset, hlength]
      split
      case isTrue hempty => exact iff_of_false id fun h => absurd (h hempty) (by omega)
      case isFalse hne =>
        refine iff_of_true ?_ fun h => absurd h hne
        rw [ends_bind, ends_snprintfChecked, ends_ite]
        have hextent : (d.untouched.buffer.print (d.buffer.text.length - 1)
            (max - d.buffer.text.length) tokenOpening).extent ≤ max :=
          extent_snprintf_le (by omega) (by omega) (Nat.zero_le _)
        split
        case isTrue hcheck => exact inside_of_ne_success hcheck hextent
        case isFalse hcheck =>
          obtain ⟨hfits, -⟩ := check_printResult_iff.mp (not_not.mp hcheck)
          refine finalizeToken_inside hmax ?_ hextent ?_
          · rw [TextBuffer.text_print hfits, CString.length_append, CString.length_take]
            omega
          · rw [TextBuffer.text_print hfits]
            rfl

/-- A call of the builder stays in the array, and returns SUCCESS only for a whole document,
exactly if the document fits the array and what is added to it fits with the key of each
member. -/
theorem builderCall_staysInArray_iff (env : BuilderEnv) (max : Nat) (call : BuilderCall)
    (d : Draft) (hmax : max < 2 ^ env.sizeBits)
    (hmemory : d.buffer.text.length + 1 < 2 ^ env.sizeBits) :
    StaysInArray env max call d ↔ call.Fits env max d := by
  cases call with
  | init => exact iff_of_true init_staysInArray trivial
  | add part arguments hcount =>
    have hsection := addSection_staysInArray_iff hmax hmemory part
      (UInt8.toNat_ofNat_of_lt hcount).symm
    rw [staysInArray_iff_ends]
    cases part with
    | desired => exact hsection
    | reported => exact hsection
  | finalize => exact finalize_staysInArray_iff hmax hmemory

/-! ### Runs -/

/-- The documents that calls of the builder leave in an array of a size. -/
inductive Produced (env : BuilderEnv) (max : Nat) : Draft → Prop where
  | init {d d' : Draft} {rc : IoTError} (hrun : (initJsonDocument max).run d = .done rc d') :
      Produced env max d'
  | step {d d' : Draft} {rc : IoTError} (hd : Produced env max d) (call : BuilderCall)
      (hrun : (call.run env max).run d = .done rc d') : Produced env max d'

/-- An argument with the key `a` and the number 5. -/
def smallMember : JsonMember := given (cString "a", .int32 5)

/-- A section with one member in an array that is large enough. -/
theorem addDesired_staysInArray :
    StaysInArray deviceBuilderEnv 29 (.add .desired [some smallMember] (by decide))
      begunDraft := by
  refine (builderCall_staysInArray_iff deviceBuilderEnv 29 _ begunDraft (by decide)
    (by decide)).mpr ⟨by decide, fun _ => .inr ⟨?_, fun _ => ?_⟩⟩
  · rintro ⟨-, -, data, hdata, s, hs, hlong⟩
    obtain rfl := Option.some.inj hdata
    obtain rfl := Option.some.inj hs
    exact absurd hlong (by decide)
  · exact (if_pos (by decide)).mpr (by decide)

/-- In a smaller one the key fits, and its value is stored behind the array. -/
theorem not_every_call_staysInArray :
    ¬ ∀ (env : BuilderEnv) (max : Nat) (call : BuilderCall) (d : Draft),
      Produced env max d → max < 2 ^ env.sizeBits → d.buffer.text.length + 1 < 2 ^ env.sizeBits →
      StaysInArray env max call d := by
  intro h
  have hproduced : Produced deviceBuilderEnv 27 begunDraft := .init (d := default) rfl
  have hstays := h _ _ (.add .desired [some smallMember] (by decide)) _ hproduced (by decide)
    (by decide)
  rw [staysInArray_iff_ends] at hstays
  have hcount : [some smallMember].length = (1 : UInt8).toNat := rfl
  have hsection := (addSection_staysInArray_iff (by decide) (by decide) .desired hcount).mp hstays
  rcases hsection.2 (by decide) with hfull | hfits
  · exact absurd hfull (by decide)
  · exact hfits.1 ⟨⟨by decide, by decide⟩, by decide, .int32 5, rfl, _, rfl, by decide⟩

end AwsIot.Shadow
