import SwitchOps.Lab.Graph

/-!
# Merging by hostname

A neighbour is merged into the collected device that has its name. The index of the names is filled from the labels
of the devices, so a name that the operator has given counts as well, and of several devices with a name the one that
was collected last. `mergesByHostname_iff` says for which names neither shows.
-/

namespace SwitchOps

/-- The device answers to the name: its label is the name, ignoring case. -/
def ParsedObservation.AnswersTo (observation : ParsedObservation) (name : Text) : Prop :=
  Text.casefold observation.label = Text.casefold name

instance (observation : ParsedObservation) (name : Text) : Decidable (observation.AnswersTo name) :=
  inferInstanceAs (Decidable (_ = _))

/-- The hostname that was observed from the device is the name, ignoring case. -/
def ParsedObservation.Announces (observation : ParsedObservation) (name : Text) : Prop :=
  ∃ hostname, observation.hostname = some hostname ∧ Text.casefold hostname = Text.casefold name

/-- Neighbours of a name are merged by observed hostnames that are unique. -/
structure MergesByHostname (observations : List ParsedObservation) (name : Text) : Prop where
  unique : ∀ deviceId, mergedInto observations name = some deviceId →
    ∃ observation ∈ observations, observation.deviceId = deviceId ∧ observation.Announces name ∧
      ∀ other ∈ observations, other.Announces name → other = observation
  shared : ∀ observation ∈ observations, ∀ other ∈ observations, observation ≠ other → observation.Announces name →
    other.Announces name → mergedInto observations name = none
  order : ∀ reordered, reordered.Perm observations → mergedInto reordered name = mergedInto observations name

section merging

variable {observations : List ParsedObservation} {observation other : ParsedObservation} {name : Text}

theorem ParsedObservation.AnswersTo.announces (h : observation.AnswersTo name) (some_ : observation.hostname.isSome) :
    observation.Announces name := by
  obtain ⟨hostname, observed⟩ := Option.isSome_iff_exists.mp some_
  rw [ParsedObservation.AnswersTo, ParsedObservation.label, observed] at h
  exact ⟨hostname, observed, h⟩

theorem ParsedObservation.Announces.answersTo (h : observation.Announces name) : observation.AnswersTo name := by
  obtain ⟨hostname, observed, same⟩ := h
  rw [ParsedObservation.AnswersTo, ParsedObservation.label, observed]
  exact same

theorem ParsedObservation.Announces.isSome (h : observation.Announces name) : observation.hostname.isSome := by
  obtain ⟨hostname, observed, -⟩ := h
  rw [observed]
  rfl

/-- Of several devices that answer to a name, the last one is taken. -/
theorem mergedInto_eq : mergedInto observations name =
    (observations.reverse.find? fun observation => observation.AnswersTo name).map (·.deviceId) := by
  rw [mergedInto, hostnameToDevice_eq, Dict.get?_ofList, ← List.map_reverse, List.find?_map, Option.map_map]
  rfl

theorem exists_of_mergedInto {deviceId : Text} (h : mergedInto observations name = some deviceId) :
    ∃ observation ∈ observations, observation.deviceId = deviceId ∧ observation.AnswersTo name := by
  rw [mergedInto_eq] at h
  obtain ⟨observation, found, rfl⟩ := Option.map_eq_some_iff.mp h
  exact ⟨observation, List.mem_reverse.mp (List.mem_of_find?_eq_some found), rfl, by simpa using List.find?_some found⟩

theorem mergedInto_append (answers : observation.AnswersTo name) :
    mergedInto (observations ++ [observation]) name = some observation.deviceId := by
  rw [mergedInto_eq, List.reverse_append, List.reverse_singleton, List.singleton_append,
    List.find?_cons_of_pos (by simpa using answers)]
  rfl

/-- Some order of the devices merges the neighbour into any of those that answer to its name. -/
theorem exists_perm_mergedInto (here : observation ∈ observations) (answers : observation.AnswersTo name) :
    ∃ reordered, reordered.Perm observations ∧ mergedInto reordered name = some observation.deviceId := by
  obtain ⟨before, after, rfl⟩ := List.append_of_mem here
  refine ⟨(before ++ after) ++ [observation], ?_, mergedInto_append answers⟩
  exact (List.perm_append_singleton _ _).trans List.perm_middle.symm

/-- The name of at most one device, which has a hostname of its own. -/
def UniqueHostname (observations : List ParsedObservation) (name : Text) : Prop :=
  ∀ observation ∈ observations, observation.AnswersTo name →
    observation.hostname.isSome ∧ ∀ other ∈ observations, other.AnswersTo name → other = observation

theorem UniqueHostname.mergedInto_eq_some (h : UniqueHostname observations name) (here : observation ∈ observations)
    (answers : observation.AnswersTo name) : mergedInto observations name = some observation.deviceId := by
  rw [mergedInto_eq]
  cases found : observations.reverse.find? fun observation => observation.AnswersTo name with
  | none =>
    have refused := List.find?_eq_none.mp found observation (List.mem_reverse.mpr here)
    exact absurd answers (by simpa using refused)
  | some last =>
    have lastHere := List.mem_reverse.mp (List.mem_of_find?_eq_some found)
    rw [(h observation here answers).2 last lastHere (by simpa using List.find?_some found)]
    rfl

theorem mergesByHostname_of_unique (h : UniqueHostname observations name) : MergesByHostname observations name := by
  refine ⟨?_, ?_, ?_⟩
  · intro deviceId merged
    obtain ⟨observation, here, rfl, answers⟩ := exists_of_mergedInto merged
    obtain ⟨observed, only⟩ := h observation here answers
    exact ⟨observation, here, rfl, answers.announces observed, fun other there announces =>
      only other there announces.answersTo⟩
  · intro observation here other there differ announces announces'
    exact absurd ((h other there announces'.answersTo).2 observation here announces.answersTo) differ
  · intro reordered perm
    have same : UniqueHostname reordered name := by
      intro observation here answers
      obtain ⟨observed, only⟩ := h observation (perm.mem_iff.mp here) answers
      exact ⟨observed, fun other there => only other (perm.mem_iff.mp there)⟩
    cases merged : mergedInto observations name with
    | none =>
      cases merged' : mergedInto reordered name with
      | none => rfl
      | some deviceId =>
        obtain ⟨observation, here, rfl, answers⟩ := exists_of_mergedInto merged'
        rw [h.mergedInto_eq_some (perm.mem_iff.mp here) answers] at merged
        cases merged
    | some deviceId =>
      obtain ⟨observation, here, rfl, answers⟩ := exists_of_mergedInto merged
      exact same.mergedInto_eq_some (perm.mem_iff.mpr here) answers

/-- **Merging by hostname**: neighbours of a name are merged by unique observed hostnames just if at most one device
answers to the name, and that one by a hostname that was observed. -/
theorem mergesByHostname_iff {observations : List ParsedObservation}
    (distinct : (observations.map (·.deviceId)).Nodup) (name : Text) :
    MergesByHostname observations name ↔ UniqueHostname observations name := by
  constructor
  · intro merges observation here answers
    have taken {other : ParsedObservation} (there : other ∈ observations) (answers : other.AnswersTo name) :
        mergedInto observations name = some other.deviceId := by
      obtain ⟨reordered, perm, merged⟩ := exists_perm_mergedInto there answers
      rw [← merges.order reordered perm, merged]
    have merged := taken here answers
    constructor
    · obtain ⟨other, there, same, announces, -⟩ := merges.unique _ merged
      obtain rfl := List.inj_on_of_nodup_map distinct there here same
      exact announces.isSome
    · intro other there answers'
      have same := Option.some.inj ((taken there answers').symm.trans merged)
      exact List.inj_on_of_nodup_map distinct there here same
  · exact mergesByHostname_of_unique

end merging

/-! ## Two devices with one hostname -/

/-- A device that was collected, whose configuration has a hostname. -/
def namedDevice (deviceId hostname : Text) : ParsedObservation where
  deviceId := deviceId
  configuredLabel := deviceId
  primary := false
  parts := { configHostname := some hostname }

/-- A switch was replaced, and the new one has the hostname of the old one. -/
def twins : List ParsedObservation := [namedDevice "lab-1" "core", namedDevice "lab-2" "core"]

theorem mergesByHostname_iff_twins : MergesByHostname twins "Core" ↔ UniqueHostname twins "Core" :=
  mergesByHostname_iff (by decide +kernel) "Core"

theorem not_mergesByHostname_twins : ¬∀ observations : List ParsedObservation,
    (observations.map (·.deviceId)).Nodup → ∀ name, MergesByHostname observations name := by
  intro claimed
  have shared := (claimed twins (by decide +kernel) "core").shared _ List.mem_cons_self _
    (List.mem_cons_of_mem _ List.mem_cons_self) (by decide +kernel) ⟨"core", rfl, rfl⟩ ⟨"core", rfl, rfl⟩
  revert shared
  decide +kernel

end SwitchOps
