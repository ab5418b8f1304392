/-
  Mqtt/TopicMatching.lean --- the topic filter test against MQTT's levels.

  `_aws_iot_mqtt_internal_is_topic_matched` walks over filter and name character by
  character.  At a wildcard it needs a character of the name that is no separator, so a
  `+` does not match an empty level, and a `#` neither the parent level nor levels that
  start with an empty one.  Everything else matches as the levels do
  (`topicMatching_iff`).
-/
import AwsIot.Foundation.Levels
import AwsIot.Mqtt.Dispatch

set_option autoImplicit false

namespace AwsIot.Mqtt

open AwsIot.Foundation

/-! ## Filters and names -/

/-- The levels of a topic filter or a topic name. -/
def topicLevels (text : List UInt8) : List (List UInt8) := text.splitOn 0x2F

/-- Wildcards take a whole level, and `#` only the last one. -/
structure WellPlaced (levels : List (List UInt8)) : Prop where
  /-- `+` is a level of its own. -/
  single : ∀ level ∈ levels, 0x2B ∈ level → level = [0x2B]
  /-- `#` is a level of its own. -/
  multi : ∀ level ∈ levels, 0x23 ∈ level → level = [0x23]
  /-- No level follows `#`. -/
  last : [0x23] ∉ levels.dropLast

instance (levels : List (List UInt8)) : Decidable (WellPlaced levels) :=
  decidable_of_iff ((∀ level ∈ levels, 0x2B ∈ level → level = [0x2B]) ∧
      (∀ level ∈ levels, 0x23 ∈ level → level = [0x23]) ∧ [0x23] ∉ levels.dropLast)
    ⟨fun h => ⟨h.1, h.2.1, h.2.2⟩, fun h => ⟨h.single, h.multi, h.last⟩⟩

/-- A topic filter of MQTT 3.1.1. -/
structure ValidFilter (filter : List UInt8) : Prop where
  /-- It has at least one character. -/
  ne_nil : filter ≠ []
  /-- It has no NUL. -/
  noNul : 0 ∉ filter
  /-- Where its wildcards stand. -/
  wellPlaced : WellPlaced (topicLevels filter)

/-- A topic name of MQTT 3.1.1. -/
structure ValidName (name : List UInt8) : Prop where
  /-- It has at least one character. -/
  ne_nil : name ≠ []
  /-- It has no NUL. -/
  noNul : 0 ∉ name
  /-- It has no `+`. -/
  noSingle : 0x2B ∉ name
  /-- It has no `#`. -/
  noMulti : 0x23 ∉ name

/-- The filter's levels match the name's. -/
def FilterMatches (filter name : List UInt8) : Prop :=
  LevelsMatch [0x2B] [0x23] (topicLevels filter) (topicLevels name)

/-- Each wildcard of the filter stands against a level of the name that exists and is not
empty. -/
def FilterFilled (filter name : List UInt8) : Prop :=
  WildcardsFilled [0x2B] [0x23] (topicLevels filter) (topicLevels name)

instance (filter name : List UInt8) : Decidable (FilterMatches filter name) :=
  inferInstanceAs (Decidable (LevelsMatch _ _ _ _))

instance (filter name : List UInt8) : Decidable (FilterFilled filter name) :=
  inferInstanceAs (Decidable (WildcardsFilled _ _ _ _))

section Levels

variable {level rest : List UInt8} {levels : List (List UInt8)}

theorem topicLevels_last (h : 0x2F ∉ level) : topicLevels level = [level] :=
  List.splitOn_eq_singleton h

theorem topicLevels_more (h : 0x2F ∉ level) :
    topicLevels (level ++ 0x2F :: rest) = level :: topicLevels rest :=
  List.splitOn_append_cons_self_of_not_mem h rest

theorem topicLevels_ne_nil (text : List UInt8) : topicLevels text ≠ [] :=
  List.splitOn_ne_nil _ text

theorem WellPlaced.tail (h : WellPlaced (level :: levels)) (hne : levels ≠ []) :
    WellPlaced levels ∧ level ≠ [0x23] := by
  have hlast := h.last
  rw [List.dropLast_cons_of_ne_nil hne, List.mem_cons, not_or] at hlast
  exact ⟨⟨fun l hl => h.single l (List.mem_cons_of_mem level hl),
    fun l hl => h.multi l (List.mem_cons_of_mem level hl), hlast.2⟩, Ne.symm hlast.1⟩

/-- A level is `+`, `#` or has no wildcard in it. -/
theorem WellPlaced.head (h : WellPlaced (level :: levels)) :
    level = [0x2B] ∨ level = [0x23] ∨ 0x2B ∉ level ∧ 0x23 ∉ level := by
  by_cases hsingle : 0x2B ∈ level
  · exact .inl (h.single level List.mem_cons_self hsingle)
  · by_cases hmulti : 0x23 ∈ level
    · exact .inr (.inl (h.multi level List.mem_cons_self hmulti))
    · exact .inr (.inr ⟨hsingle, hmulti⟩)

end Levels

/-! ## One level of the loop -/

/-- The text goes on behind a level: it ends, or a separator follows. -/
def AtBoundary (text : List UInt8) : Prop := text = [] ∨ ∃ rest, text = 0x2F :: rest

section Loop

variable {l m filter name : List UInt8}

/-- An ordinary level of the filter matches itself. -/
theorem isTopicMatched_same (hfilter : AtBoundary filter) (hname : AtBoundary name) :
    ∀ {l m : List UInt8}, 0x2F ∉ l → 0x2B ∉ l → 0x23 ∉ l → 0x2F ∉ m →
      (isTopicMatched (l ++ filter) (m ++ name) = true ↔
        l = m ∧ isTopicMatched filter name = true) := by
  intro l
  induction l with
  | nil =>
    intro m _ _ _ hm
    cases m with
    | nil => exact ⟨fun h => ⟨rfl, h⟩, fun h => h.2⟩
    | cons n m =>
      have hn : n ≠ 0x2F := fun h => hm (h ▸ List.mem_cons_self)
      refine iff_of_false ?_ (fun h => by cases h.1)
      rcases hfilter with rfl | ⟨rest, rfl⟩
      · exact fun h => by cases h
      · simp [isTopicMatched, hn, hn.symm]
  | cons f l ih =>
    intro m hsep hsingle hmulti hm
    rw [List.mem_cons, not_or] at hsep hsingle hmulti
    cases m with
    | nil =>
      refine iff_of_false ?_ (fun h => by cases h.1)
      rcases hname with rfl | ⟨rest, rfl⟩
      · exact fun h => by cases h
      · simp [isTopicMatched, Ne.symm hsep.1]
    | cons n m =>
      rw [List.mem_cons, not_or] at hm
      rw [List.cons_append, List.cons_append, isTopicMatched, if_neg (fun h => hm.1 h.1.symm),
        List.cons.injEq, and_assoc]
      by_cases heq : f = n
      · rw [if_neg (fun h => h.2.2 heq), if_neg (Ne.symm hsingle.1), if_neg (Ne.symm hmulti.1),
          and_iff_right heq]
        exact ih hsep.2 hsingle.2 hmulti.2 hm.2
      · rw [if_pos ⟨Ne.symm hsingle.1, Ne.symm hmulti.1, heq⟩]
        exact iff_of_false (by decide) (fun h => heq h.1)

theorem dropWhile_level (hm : 0x2F ∉ m) (hname : AtBoundary name) :
    (m ++ name).dropWhile (· ≠ 0x2F) = name := by
  have hall : ∀ b ∈ m, (decide (b ≠ 0x2F)) = true := by
    intro b hb
    exact decide_eq_true fun h => hm (h ▸ hb)
  rw [List.dropWhile_append_of_pos hall]
  rcases hname with rfl | ⟨rest, rfl⟩
  · rfl
  · rfl

/-- `+` takes a level that is not empty. -/
theorem isTopicMatched_single (hname : AtBoundary name) (hm : 0x2F ∉ m) :
    isTopicMatched (0x2B :: filter) (m ++ name) = true ↔
      m ≠ [] ∧ isTopicMatched filter name = true := by
  cases m with
  | nil =>
    refine iff_of_false ?_ (fun h => h.1 rfl)
    rcases hname with rfl | ⟨rest, rfl⟩
    · exact fun h => by cases h
    · simp [isTopicMatched]
  | cons n m =>
    rw [List.mem_cons, not_or] at hm
    rw [List.cons_append, isTopicMatched, if_neg (fun h => hm.1 h.1.symm),
      if_neg (fun h => h.1 rfl), if_pos rfl, dropWhile_level hm.2 hname]
    exact ⟨fun h => ⟨List.cons_ne_nil n m, h⟩, fun h => h.2⟩

/-- `#` takes all of a name whose next level is not empty. -/
theorem isTopicMatched_multi (hname : AtBoundary name) (hm : 0x2F ∉ m) :
    isTopicMatched [0x23] (m ++ name) = true ↔ m ≠ [] := by
  cases m with
  | nil =>
    refine iff_of_false ?_ (fun h => h rfl)
    rcases hname with rfl | ⟨rest, rfl⟩
    · exact fun h => by cases h
    · simp [isTopicMatched]
  | cons n m =>
    rw [List.mem_cons, not_or] at hm
    rw [List.cons_append, isTopicMatched, if_neg (fun h => hm.1 h.1.symm),
      if_neg (fun h => h.2.1 rfl), if_neg (by decide), if_pos rfl]
    exact iff_of_true rfl (List.cons_ne_nil n m)

/-- A level of the filter and what it takes of the name; `#` is treated on its own. -/
theorem isTopicMatched_level (hfilter : AtBoundary filter) (hname : AtBoundary name)
    (hl : 0x2F ∉ l) (hm : 0x2F ∉ m) (hplaced : l = [0x2B] ∨ 0x2B ∉ l ∧ 0x23 ∉ l) :
    isTopicMatched (l ++ filter) (m ++ name) = true ↔
      ((l = [0x2B] ∨ l = m) ∧ (l = [0x2B] → m ≠ [])) ∧ isTopicMatched filter name = true := by
  rcases hplaced with rfl | ⟨hsingle, hmulti⟩
  · rw [List.singleton_append, isTopicMatched_single hname hm]
    simp
  · have hne : l ≠ [0x2B] := fun h => hsingle (h ▸ List.mem_cons_self)
    rw [isTopicMatched_same hfilter hname hl hsingle hmulti hm]
    simp [hne]

end Loop

/-! ## The whole filter -/

section Whole

variable {l m filter rest : List UInt8}

theorem atBoundary_nil : AtBoundary [] := .inl rfl

theorem atBoundary_sep : AtBoundary (0x2F :: rest) := .inr ⟨rest, rfl⟩

theorem isTopicMatched_nil {name : List UInt8} : isTopicMatched [] name = true ↔ name = [] :=
  List.isEmpty_iff

theorem isTopicMatched_sep :
    isTopicMatched (0x2F :: filter) (0x2F :: rest) = isTopicMatched filter rest := by
  simp [isTopicMatched]

/-- A name is its first level, and goes on behind a separator or ends. -/
theorem exists_firstLevel (name : List UInt8) :
    ∃ m tail, name = m ++ tail ∧ 0x2F ∉ m ∧
      (tail = [] ∧ topicLevels name = [m] ∨
        ∃ rest, tail = 0x2F :: rest ∧ topicLevels name = m :: topicLevels rest) := by
  by_cases hmem : 0x2F ∈ name
  · obtain ⟨m, rest, rfl, hm⟩ := List.eq_append_cons_of_mem hmem
    exact ⟨m, _, rfl, hm, .inr ⟨rest, rfl, topicLevels_more hm⟩⟩
  · exact ⟨name, [], (List.append_nil name).symm, hmem, .inl ⟨rfl, topicLevels_last hmem⟩⟩

/-- The last level of a filter. -/
theorem isTopicMatched_last (hl : 0x2F ∉ l) (hplaced : WellPlaced [l]) (name : List UInt8) :
    isTopicMatched l name = true ↔ FilterMatches l name ∧ FilterFilled l name := by
  obtain ⟨m, tail, rfl, hm, htail⟩ := exists_firstLevel name
  have hboundary : AtBoundary tail := by
    rcases htail with ⟨rfl, -⟩ | ⟨rest, rfl, -⟩
    · exact atBoundary_nil
    · exact atBoundary_sep
  obtain ⟨names, hlevels, hnames⟩ : ∃ names, topicLevels (m ++ tail) = m :: names ∧
      (names = [] ↔ tail = []) := by
    rcases htail with ⟨rfl, hlevels⟩ | ⟨rest, rfl, hlevels⟩
    · exact ⟨[], hlevels, iff_of_true rfl rfl⟩
    · exact ⟨_, hlevels, iff_of_false (topicLevels_ne_nil rest) (List.cons_ne_nil _ _)⟩
  unfold FilterMatches FilterFilled
  rw [topicLevels_last hl, hlevels, levelsMatch_cons_cons, levelsMatch_nil,
    wildcardsFilled_cons_cons, and_iff_left wildcardsFilled_nil, hnames]
  rcases or_left_comm.mp hplaced.head with rfl | hother
  · rw [isTopicMatched_multi hboundary hm]
    simp
  · have hnotMulti : l ≠ [0x23] := by
      rcases hother with rfl | ⟨-, hmulti⟩
      · decide
      · exact fun h => hmulti (h ▸ List.mem_cons_self)
    have hlevel := isTopicMatched_level (l := l) atBoundary_nil hboundary hl hm hother
    rw [List.append_nil, isTopicMatched_nil] at hlevel
    rw [hlevel]
    simp only [hnotMulti, false_and, false_or, or_false]
    exact and_right_comm

/-- A level of the filter with further levels behind it. -/
theorem isTopicMatched_more (hl : 0x2F ∉ l) (hplaced : WellPlaced (l :: topicLevels rest))
    (ih : ∀ name, isTopicMatched rest name = true ↔
      FilterMatches rest name ∧ FilterFilled rest name)
    (name : List UInt8) :
    isTopicMatched (l ++ 0x2F :: rest) name = true ↔
      FilterMatches (l ++ 0x2F :: rest) name ∧ FilterFilled (l ++ 0x2F :: rest) name := by
  have hne := topicLevels_ne_nil rest
  have hnotMulti := (hplaced.tail hne).2
  have hother : l = [0x2B] ∨ 0x2B ∉ l ∧ 0x23 ∉ l := by
    rcases hplaced.head with h | h | h
    · exact .inl h
    · exact absurd h hnotMulti
    · exact .inr h
  obtain ⟨m, tail, rfl, hm, htail⟩ := exists_firstLevel name
  unfold FilterMatches FilterFilled at ih ⊢
  rw [topicLevels_more hl]
  rcases htail with ⟨rfl, hlevels⟩ | ⟨names, rfl, hlevels⟩
  · -- the name ends: only a final `#` is left of the filter, and it has nothing to stand against
    rw [isTopicMatched_level atBoundary_sep atBoundary_nil hl hm hother, hlevels]
    refine iff_of_false (fun h => by cases h.2) ?_
    rintro ⟨hmatch, hfilled⟩
    rw [levelsMatch_cons_cons] at hmatch
    rw [wildcardsFilled_cons_cons] at hfilled
    rcases hmatch with ⟨-, hnil⟩ | ⟨-, hmatch⟩
    · exact hne hnil
    · obtain ⟨p, pattern, hpattern⟩ := List.exists_cons_of_ne_nil hne
      rw [hpattern] at hmatch hfilled
      obtain ⟨rfl, rfl⟩ := levelsMatch_cons_nil.mp hmatch
      exact not_wildcardsFilled_multi hfilled.2
  · rw [isTopicMatched_level atBoundary_sep atBoundary_sep hl hm hother, isTopicMatched_sep,
      ih names, hlevels, levelsMatch_cons_cons, wildcardsFilled_cons_cons]
    simp only [hnotMulti, false_and, false_or, or_false]
    exact and_and_and_comm

/-- The code's test, on levels. -/
theorem isTopicMatched_iff (filter : List UInt8) : WellPlaced (topicLevels filter) →
    ∀ name, isTopicMatched filter name = true ↔
      FilterMatches filter name ∧ FilterFilled filter name := by
  induction filter using separator_induction (0x2F : UInt8) with
  | last level hsep =>
    intro hplaced
    rw [topicLevels_last hsep] at hplaced
    exact isTopicMatched_last hsep hplaced
  | more level rest hsep ih =>
    intro hplaced
    rw [topicLevels_more hsep] at hplaced
    exact isTopicMatched_more hsep hplaced (ih (hplaced.tail (topicLevels_ne_nil rest)).1)

end Whole

/-- For every topic filter, and topic names and all other texts: the code's test agrees with
MQTT's levels if and only if the levels do not match, or every wildcard of the filter stands
against a level of the name that exists and is not empty. -/
theorem topicMatching_iff (filter name : List UInt8) (hfilter : ValidFilter filter) :
    (isTopicMatched filter name = true ↔ FilterMatches filter name) ↔
      (FilterMatches filter name → FilterFilled filter name) := by
  rw [isTopicMatched_iff filter hfilter.wellPlaced name]
  constructor
  · intro h hmatch
    exact (h.mpr hmatch).2
  · intro h
    exact ⟨fun hboth => hboth.1, fun hmatch => ⟨hmatch, h hmatch⟩⟩

/-- `a/+` and `a/b`. -/
theorem topicMatching_plain : isTopicMatched [0x61, 0x2F, 0x2B] [0x61, 0x2F, 0x62] = true ↔
    FilterMatches [0x61, 0x2F, 0x2B] [0x61, 0x2F, 0x62] := by
  have hfilter : ValidFilter [0x61, 0x2F, 0x2B] :=
    ⟨by decide, by decide, by decide, by decide, by decide⟩
  refine (topicMatching_iff _ [0x61, 0x2F, 0x62] hfilter).mpr fun _ => ?_
  show WildcardsFilled [0x2B] [0x23] [[0x61], [0x2B]] [[0x61], [0x62]]
  rw [wildcardsFilled_cons_cons, wildcardsFilled_cons_cons]
  exact ⟨by decide, by decide, wildcardsFilled_nil⟩

/-- `#` does not match the parent level, nor `+` an empty level: `a/#` and `a`, `a/+` and
`a/`. -/
theorem not_topicMatching_empty :
    (ValidFilter [0x61, 0x2F, 0x23] ∧ ValidName [0x61] ∧
      ¬ (isTopicMatched [0x61, 0x2F, 0x23] [0x61] = true ↔
        FilterMatches [0x61, 0x2F, 0x23] [0x61])) ∧
    (ValidFilter [0x61, 0x2F, 0x2B] ∧ ValidName [0x61, 0x2F] ∧
      ¬ (isTopicMatched [0x61, 0x2F, 0x2B] [0x61, 0x2F] = true ↔
        FilterMatches [0x61, 0x2F, 0x2B] [0x61, 0x2F])) := by
  have hparent : FilterMatches [0x61, 0x2F, 0x23] [0x61] := .same [0x61] (.multi [])
  have hempty : FilterMatches [0x61, 0x2F, 0x2B] [0x61, 0x2F] := .same [0x61] (.single [] .nil)
  refine ⟨⟨⟨by decide, by decide, by decide, by decide, by decide⟩,
    ⟨by decide, by decide, by decide, by decide⟩, ?_⟩,
    ⟨⟨by decide, by decide, by decide, by decide, by decide⟩,
    ⟨by decide, by decide, by decide, by decide⟩, ?_⟩⟩
  · intro h
    exact absurd (h.mpr hparent) (by decide)
  · intro h
    exact absurd (h.mpr hempty) (by decide)

end AwsIot.Mqtt
