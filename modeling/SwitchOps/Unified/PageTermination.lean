import SwitchOps.Unified.Pagination

/-!
# Whether pagination ends

The attempts at one page are counted, but neither the pages nor the links that were followed are. Against a
server whose answers are `answers 0`, `answers 1` and so on, `get` ends unless every answer that it comes to
is a page whose link it follows, or a failure that it retries; `merakiGet_ends_iff` says which sequences of
answers these are.
-/

namespace SwitchOps

open Effects Effects.Program

/-! ## A server -/

/-- A server that answers the requests one after the other; sleeping is not a request. -/
def serving (answers : Nat → HttpOutcome) : Discipline MerakiEffect MerakiEffect.Answer Nat where
  allowed _ _ := True
  answers n
    | .request _ _, answer => answer = answers n
    | .sleep, _ => True
  next n
    | .request _ _, _ => n + 1
    | .sleep, _ => n

theorem exists_served {α : Type} (answers : Nat → HttpOutcome) (p : Meraki α) (n : Nat) :
    ∃ t a, Runs p t a ∧ Answered (serving answers) n t := by
  refine exists_answered (fun n effect => ?_) p n
  cases effect with
  | request url params => exact ⟨answers n, rfl⟩
  | sleep => exact ⟨(), trivial⟩

/-- `get` returns or raises, after finitely many requests. -/
def Ends [Url.HostRules] (answers : Nat → HttpOutcome) (maxRetries : Nat) (operation : Text)
    (pathParameters : Dict Text Text) (query : QueryParameters) : Prop :=
  ∃ fuel t outcome, Answered (serving answers) 0 t ∧
    Runs (merakiGet maxRetries fuel operation pathParameters query) t (some outcome)

/-! ## Answers after which `get` goes on -/

/-- A failure that is retried, as long as there are attempts left. -/
def Retried : HttpOutcome → Prop
  | .httpError => True
  | .raised => False
  | .response response => response.statusCode = 429 ∨ 500 ≤ response.statusCode

/-- A page whose link is followed: a list, or an object that is the first page. -/
def Followed [Url.HostRules] (operation : Text) (spec : MerakiOperationSpec) (first : Prop) : HttpOutcome → Prop
  | .response response =>
    (200 ≤ response.statusCode ∧ response.statusCode < 300) ∧
      ((∃ items, response.body = some (.array items)) ∨ first ∧ ∃ members, response.body = some (.object members)) ∧
      ∃ link nextUrl, response.next = some link ∧ link.text ≠ [] ∧
        validateNextUrl operation spec link.text = .ok nextUrl
  | _ => False

/-- Every answer is retried or followed, and there are never more failures in a row than are retried. -/
structure GoesOn [Url.HostRules] (answers : Nat → HttpOutcome) (maxRetries : Nat) (operation : Text)
    (spec : MerakiOperationSpec) : Prop where
  step : ∀ n, Retried (answers n) ∨ Followed operation spec (∀ m < n, Retried (answers m)) (answers n)
  retries : ∀ k, ∃ i ≤ maxRetries, ¬Retried (answers (k + i))

/-! ## One page -/

variable {answers : Nat → HttpOutcome} {operation : Text}

theorem attemptOutcome_eq_none_iff {answer : HttpOutcome} :
    attemptOutcome operation false answer = none ↔ Retried answer := by
  cases answer with
  | httpError => exact iff_of_true rfl trivial
  | raised => exact iff_of_false (by simp [attemptOutcome]) id
  | response response =>
    simp only [attemptOutcome, Retried]
    by_cases failed : response.statusCode = 429 ∨ 500 ≤ response.statusCode
    · rw [if_neg (by omega), if_neg (by omega), if_neg (by omega), if_neg (by simpa [or_iff_not_imp_left] using failed)]
      exact iff_of_true rfl failed
    · refine iff_of_false ?_ failed
      split
      · simp
      split
      · simp
      split
      · simp
      rw [if_pos (.inl failed)]
      simp

/-- On the last attempt a failure is raised. -/
theorem attemptOutcome_last (operation : Text) {answer : HttpOutcome} (failed : Retried answer) :
    ∃ error, attemptOutcome operation true answer = some (.error (.api error)) := by
  cases answer with
  | httpError => exact ⟨_, rfl⟩
  | raised => exact failed.elim
  | response response =>
    simp only [attemptOutcome]
    have failed : response.statusCode = 429 ∨ 500 ≤ response.statusCode := failed
    rw [if_neg (by omega), if_neg (by omega), if_neg (by omega), if_pos (.inr trivial)]
    exact ⟨_, rfl⟩

/-- Whether it is the last attempt matters to failures that are retried only. -/
theorem attemptOutcome_of_not_retried {answer : HttpOutcome} (decided : ¬Retried answer) :
    attemptOutcome operation true answer = attemptOutcome operation false answer := by
  cases answer with
  | httpError => exact absurd trivial decided
  | raised => rfl
  | response response =>
    have decided : ¬(response.statusCode = 429 ∨ 500 ≤ response.statusCode) := decided
    simp only [attemptOutcome, decided, not_false_eq_true, true_or, if_true]

/-- What an attempt at a page has come to after the answers from `n` on: the first one that is not retried
decides, unless the attempts run out. -/
def PageOutcome (answers : Nat → HttpOutcome) (operation : Text) (left n : Nat)
    (outcome : Except MerakiFailure MerakiResponse) (n' : Nat) : Prop :=
  ∃ i ≤ left, n' = n + i + 1 ∧ (∀ j < i, Retried (answers (n + j))) ∧
    ((¬Retried (answers (n + i)) ∧ attemptOutcome operation false (answers (n + i)) = some outcome) ∨
      (i = left ∧ Retried (answers (n + i)) ∧ ∃ error, outcome = .error (.api error)))

theorem requestWithRetry_served (url : Text) (params : Option QueryParameters) (left n : Nat) :
    Meets (serving answers) (requestWithRetry operation url params left) n
      (PageOutcome answers operation left n) := by
  induction left generalizing n with
  | zero =>
    refine ⟨trivial, fun answer served => ⟨0, le_refl _, rfl, by simp, ?_⟩⟩
    obtain rfl : answer = answers n := served
    by_cases failed : Retried (answers n)
    · obtain ⟨error, raised⟩ := attemptOutcome_last operation failed
      exact .inr ⟨rfl, failed, error, by rw [raised]; rfl⟩
    · refine .inl ⟨failed, ?_⟩
      rw [attemptOutcome_of_not_retried failed]
      cases judged : attemptOutcome operation false (answers n) with
      | none => exact absurd (attemptOutcome_eq_none_iff.mp judged) failed
      | some outcome => rfl
  | succ left ih =>
    refine meets_bind.mpr (meets_perform.mpr ⟨trivial, fun answer served => ?_⟩)
    obtain rfl : answer = answers n := served
    split
    · next outcome judged =>
      have decided : ¬Retried (answers n) := fun failed => by
        rw [attemptOutcome_eq_none_iff.mpr failed] at judged
        cases judged
      exact ⟨0, Nat.zero_le _, rfl, by simp, .inl ⟨decided, judged⟩⟩
    · next judged =>
      have failed := attemptOutcome_eq_none_iff.mp judged
      refine ⟨trivial, fun _ _ => (ih (n + 1)).mono fun outcome n' h => ?_⟩
      obtain ⟨i, few, rfl, before, decided⟩ := h
      refine ⟨i + 1, Nat.succ_le_succ few, by omega, ?_, ?_⟩
      · intro j earlier
        cases j with
        | zero => exact failed
        | succ j =>
          rw [show n + (j + 1) = n + 1 + j by omega]
          exact before j (by omega)
      · rw [show n + (i + 1) = n + 1 + i by omega]
        rcases decided with decided | ⟨rfl, last, raised⟩
        · exact .inl decided
        · exact .inr ⟨rfl, last, raised⟩

/-! ## The pages -/

section pages

variable [Url.HostRules] {spec : MerakiOperationSpec} {maxRetries : Nat}

theorem Followed.not_retried {first : Prop} {answer : HttpOutcome} (h : Followed operation spec first answer) :
    ¬Retried answer := by
  cases answer with
  | httpError => exact h.elim
  | raised => exact id
  | response response =>
    obtain ⟨success, -⟩ := h
    intro failed
    have failed : response.statusCode = 429 ∨ 500 ≤ response.statusCode := failed
    omega

theorem Followed.mono {first first' : Prop} {answer : HttpOutcome} (h : Followed operation spec first answer)
    (weaker : first → first') : Followed operation spec first' answer := by
  cases answer with
  | httpError => exact h
  | raised => exact h
  | response response =>
    obtain ⟨success, body, linked⟩ := h
    exact ⟨success, body.imp_right fun object => ⟨weaker object.1, object.2⟩, linked⟩

omit [Url.HostRules] in
theorem success_of_attemptOutcome {last : Bool} {response : MerakiResponse}
    (h : attemptOutcome operation last (.response response) = some (.ok response)) :
    200 ≤ response.statusCode ∧ response.statusCode < 300 := by
  simp only [attemptOutcome] at h
  split at h
  · next success => exact success
  split at h
  · cases h
  split at h
  · cases h
  split at h
  · cases h
  · cases h

/-- The link of a response passes. -/
def LinkPasses (operation : Text) (spec : MerakiOperationSpec) (response : MerakiResponse) : Prop :=
  ∃ link nextUrl, response.next = some link ∧ link.text ≠ [] ∧
    validateNextUrl operation spec link.text = .ok nextUrl

theorem followNext_served {fuel n : Nat} {response : MerakiResponse} {read : MerakiPages}
    {Q : Option (Except MerakiFailure MerakiApiResult) → Nat → Prop}
    (stops : ¬LinkPasses operation spec response → ∀ result, Q (some result) n)
    (onward : LinkPasses operation spec response → ∀ nextUrl,
      Meets (serving answers) (getPages operation spec maxRetries fuel nextUrl none read) n Q) :
    Meets (serving answers)
      (match response.next with
      | none | some ⟨[], _⟩ =>
        (return some (.ok { data := read.all, complete := true, pages := read.pages }) :
          Meraki (Option (Except MerakiFailure MerakiApiResult)))
      | some candidate =>
        match validateNextUrl operation spec candidate.text with
        | .error (.api error) => return some (.ok (read.cutShort error.code))
        | .error .other => return some (.error .other)
        | .ok nextUrl => getPages operation spec maxRetries fuel nextUrl none read)
      n Q := by
  split
  · next unlinked =>
    refine stops ?_ _
    rintro ⟨link, nextUrl, linked, -⟩
    rw [unlinked] at linked
    cases linked
  · next unlinked =>
    refine stops ?_ _
    rintro ⟨link, nextUrl, linked, named, -⟩
    rw [unlinked] at linked
    cases linked
    exact named rfl
  · next candidate named linked =>
    have refused {failure : MerakiFailure} (judged : validateNextUrl operation spec candidate.text = .error failure) :
        ¬LinkPasses operation spec response := by
      rintro ⟨link, nextUrl, linked', -, valid⟩
      rw [linked] at linked'
      cases linked'
      rw [judged] at valid
      cases valid
    split
    · next judged => exact stops (refused judged) _
    · next judged => exact stops (refused judged) _
    · next nextUrl valid =>
      refine onward ⟨candidate, nextUrl, linked, ?_, valid⟩ nextUrl
      intro empty
      obtain ⟨text, stripped⟩ := candidate
      cases empty
      exact named stripped rfl

/-- What one page leads to: the loop ends, or goes on with the next page if the last answer was followed. -/
theorem getPages_served {fuel n : Nat} {url : Text} {params : Option QueryParameters} {read : MerakiPages}
    {Q : Option (Except MerakiFailure MerakiApiResult) → Nat → Prop}
    (stops : ∀ i ≤ maxRetries, (∀ j < i, Retried (answers (n + j))) →
      (Retried (answers (n + i)) → i = maxRetries) →
      ¬Followed operation spec (read.pages = 0) (answers (n + i)) → ∀ result, Q (some result) (n + i + 1))
    (onward : ∀ i ≤ maxRetries, (∀ j < i, Retried (answers (n + j))) →
      Followed operation spec (read.pages = 0) (answers (n + i)) →
      ∀ (nextUrl : Text) (read : MerakiPages), 0 < read.pages →
        Meets (serving answers) (getPages operation spec maxRetries fuel nextUrl none read) (n + i + 1) Q) :
    Meets (serving answers) (getPages operation spec maxRetries (fuel + 1) url params read) n Q := by
  refine (requestWithRetry_served url params maxRetries n).bind fun outcome n' page => ?_
  obtain ⟨i, few, rfl, before, decided⟩ := page
  rcases decided with ⟨settled, judged⟩ | ⟨last, failed, error, rfl⟩
  · have stops := stops i few before fun failed => absurd failed settled
    cases outcome with
    | error failure =>
      have unfollowed : ¬Followed operation spec (read.pages = 0) (answers (n + i)) := by
        intro followed
        cases given : answers (n + i) with
        | httpError => rw [given] at followed; exact followed
        | raised => rw [given] at followed; exact followed
        | response response =>
          rw [given] at followed judged
          rw [attemptOutcome, if_pos followed.1] at judged
          cases judged
      cases failure with
      | api error => exact stops unfollowed _
      | other => exact stops unfollowed _
    | ok response =>
      have given := response_of_attemptOutcome judged
      rw [given] at judged
      have success := success_of_attemptOutcome judged
      have onward := onward i few before
      rw [given] at stops onward
      dsimp only
      split
      · next items body =>
        refine followNext_served (fun unlinked => stops fun followed => unlinked followed.2.2)
          fun linked nextUrl => ?_
        exact onward ⟨success, .inl ⟨items, body⟩, linked⟩ nextUrl _ (Nat.succ_pos _)
      · next members body =>
        split
        · next later =>
          refine stops ?_ _
          rintro ⟨-, array | object, -⟩
          · obtain ⟨items, array⟩ := array
            rw [body] at array
            cases array
          · exact absurd object.1 (Nat.pos_iff_ne_zero.mp later)
        · next first =>
          refine followNext_served (fun unlinked => stops fun followed => unlinked followed.2.2)
            fun linked nextUrl => ?_
          exact onward ⟨success, .inr ⟨by omega, members, body⟩, linked⟩ nextUrl _ Nat.one_pos
      · next noArray noObject =>
        refine stops ?_ _
        rintro ⟨-, array | object, -⟩
        · obtain ⟨items, array⟩ := array
          exact noArray items array
        · obtain ⟨-, members, object⟩ := object
          exact noObject members object
  · exact stops i few before (fun _ => last) (fun followed => followed.not_retried failed) _

/-- As long as the server goes on, no bound on the pages is large enough. -/
theorem getPages_goesOn (goesOn : GoesOn answers maxRetries operation spec) (fuel : Nat) {n : Nat} {url : Text}
    {params : Option QueryParameters} {read : MerakiPages}
    (unread : (∀ m < n, Retried (answers m)) → read.pages = 0) :
    Meets (serving answers) (getPages operation spec maxRetries fuel url params read) n
      fun outcome _ => outcome = none := by
  induction fuel generalizing n url params read with
  | zero => rfl
  | succ fuel ih =>
    refine getPages_served (fun i few before exhausted unfollowed result => ?_)
      fun i few before followed nextUrl read some_ => ?_
    · exfalso
      rcases goesOn.step (n + i) with failed | followed
      · obtain rfl := exhausted failed
        obtain ⟨j, few', settled⟩ := goesOn.retries n
        rcases Nat.lt_or_eq_of_le few' with earlier | rfl
        · exact settled (before j earlier)
        · exact settled failed
      · refine unfollowed (followed.mono fun first => unread fun m earlier => ?_)
        exact first m (by omega)
    · refine ih fun retried => ?_
      exact absurd (retried (n + i) (by omega)) followed.not_retried

/-- An answer after which the server does not go on ends the pages. -/
theorem getPages_ends_of_step {b : Nat}
    (stuck : ¬(Retried (answers b) ∨ Followed operation spec (∀ m < b, Retried (answers m)) (answers b)))
    (fuel : Nat) {n : Nat} {url : Text} {params : Option QueryParameters} {read : MerakiPages}
    (unread : read.pages = 0 → ∀ m < n, Retried (answers m)) (ahead : n ≤ b) (enough : b < n + fuel) :
    Meets (serving answers) (getPages operation spec maxRetries fuel url params read) n
      fun outcome _ => outcome.isSome = true := by
  induction fuel generalizing n url params read with
  | zero => omega
  | succ fuel ih =>
    refine getPages_served (fun i few before exhausted unfollowed result => rfl)
      fun i few before followed nextUrl read' some_ => ?_
    have retried (m : Nat) (here : n ≤ m) (earlier : m < n + i) : Retried (answers m) := by
      have := before (m - n) (by omega)
      rwa [Nat.add_sub_cancel' here] at this
    have later : n + i < b := by
      by_contra passed
      rcases Nat.lt_or_eq_of_le (Nat.not_lt.mp passed) with earlier | rfl
      · exact stuck (.inl (retried b ahead earlier))
      · refine stuck (.inr (followed.mono fun first m earlier => ?_))
        by_cases here : n ≤ m
        · exact retried m here earlier
        · exact unread first m (Nat.not_le.mp here)
    exact ih (fun none => absurd none (Nat.pos_iff_ne_zero.mp some_)) (by omega) (by omega)

/-- More failures in a row than are retried end the pages. -/
theorem getPages_ends_of_retries {k : Nat} (stuck : ∀ i ≤ maxRetries, Retried (answers (k + i))) (fuel : Nat)
    {n : Nat} {url : Text} {params : Option QueryParameters} {read : MerakiPages} (ahead : n ≤ k)
    (enough : k < n + fuel) :
    Meets (serving answers) (getPages operation spec maxRetries fuel url params read) n
      fun outcome _ => outcome.isSome = true := by
  induction fuel generalizing n url params read with
  | zero => omega
  | succ fuel ih =>
    refine getPages_served (fun i few before exhausted unfollowed result => rfl)
      fun i few before followed nextUrl read' some_ => ?_
    have later : n + i < k := by
      by_contra passed
      have failed := stuck (n + i - k) (by omega)
      rw [Nat.add_sub_cancel' (Nat.not_lt.mp passed)] at failed
      exact followed.not_retried failed
    exact ih (by omega) (by omega)

theorem exists_fuel_of_not_goesOn (stuck : ¬GoesOn answers maxRetries operation spec) (url : Text)
    (params : Option QueryParameters) :
    ∃ fuel, Meets (serving answers) (getPages operation spec maxRetries fuel url params {}) 0
      fun outcome _ => outcome.isSome = true := by
  by_cases step : ∀ n, Retried (answers n) ∨ Followed operation spec (∀ m < n, Retried (answers m)) (answers n)
  · have exhausted : ∃ k, ∀ i ≤ maxRetries, Retried (answers (k + i)) := by
      by_contra settled
      push Not at settled
      exact stuck ⟨step, settled⟩
    obtain ⟨k, failed⟩ := exhausted
    exact ⟨k + 1, getPages_ends_of_retries failed (k + 1) (Nat.zero_le k) (by omega)⟩
  · obtain ⟨b, stuck⟩ := not_forall.mp step
    exact ⟨b + 1, getPages_ends_of_step stuck (b + 1) (fun _ m earlier => absurd earlier (Nat.not_lt_zero m))
      (Nat.zero_le b) (by omega)⟩

/-! ## A request -/

/-- What the client checks before the first request. -/
structure AcceptedRequest (spec : MerakiOperationSpec) (pathParameters : Dict Text Text) (query : QueryParameters) :
    Prop where
  names : ∀ name, name ∈ Dict.keys pathParameters ↔ name ∈ spec.pathParameters
  keys : ∀ key ∈ Dict.keys query, key ∈ spec.queryParameters
  values : ∀ value ∈ Dict.values pathParameters, isPathValue value = true

theorem merakiGet_accepted {pathParameters : Dict Text Text} {query : QueryParameters}
    (known : Dict.get? merakiOperations operation = some spec) (accepted : AcceptedRequest spec pathParameters query)
    (fuel : Nat) : merakiGet maxRetries fuel operation pathParameters query
      = getPages operation spec maxRetries fuel (spec.render pathParameters) (some query) {} := by
  unfold merakiGet
  rw [known]
  dsimp only
  rw [if_neg, if_neg, if_neg]
  · simpa using accepted.values
  · simpa using accepted.keys
  · simpa using ⟨fun name given => (accepted.names name).mp given, fun name asked => (accepted.names name).mpr asked⟩

theorem merakiGet_refused {pathParameters : Dict Text Text} {query : QueryParameters}
    (refused : ¬∃ spec, Dict.get? merakiOperations operation = some spec ∧ AcceptedRequest spec pathParameters query) :
    ∃ error, ∀ maxRetries fuel, merakiGet maxRetries fuel operation pathParameters query
      = Pure.pure (some (.error (.api error))) := by
  unfold merakiGet
  cases known : Dict.get? merakiOperations operation with
  | none => exact ⟨_, fun _ _ => rfl⟩
  | some spec =>
    dsimp only
    by_cases names : (Dict.keys pathParameters).all spec.pathParameters.contains
        ∧ spec.pathParameters.all (Dict.keys pathParameters).contains
    · by_cases keys : (Dict.keys query).all spec.queryParameters.contains
      · by_cases values : (Dict.values pathParameters).all isPathValue
        · refine absurd ⟨spec, known, ⟨fun name => ?_, ?_, ?_⟩⟩ refused
          · simp only [List.all_eq_true, List.contains_iff_mem] at names
            exact ⟨names.1 name, names.2 name⟩
          · simpa using keys
          · simpa using values
        · simp only [names, keys, values]
          exact ⟨_, fun _ _ => rfl⟩
      · simp only [names, keys]
        exact ⟨_, fun _ _ => rfl⟩
    · simp only [names]
      exact ⟨_, fun _ _ => rfl⟩

/-- **When pagination ends**: `get` returns or raises, unless it makes a request at all and the server goes on. -/
theorem merakiGet_ends_iff (answers : Nat → HttpOutcome) (maxRetries : Nat) (operation : Text)
    (pathParameters : Dict Text Text) (query : QueryParameters) :
    Ends answers maxRetries operation pathParameters query ↔
      ¬∃ spec, Dict.get? merakiOperations operation = some spec ∧ AcceptedRequest spec pathParameters query ∧
        GoesOn answers maxRetries operation spec := by
  constructor
  · rintro ⟨fuel, t, outcome, served, run⟩ ⟨spec, known, accepted, goesOn⟩
    rw [merakiGet_accepted known accepted] at run
    have endless := run.meets (getPages_goesOn goesOn fuel fun _ => rfl) served
    cases endless
  · intro stops
    by_cases accepted : ∃ spec, Dict.get? merakiOperations operation = some spec ∧
        AcceptedRequest spec pathParameters query
    · obtain ⟨spec, known, accepted⟩ := accepted
      have stuck : ¬GoesOn answers maxRetries operation spec := fun goesOn => stops ⟨spec, known, accepted, goesOn⟩
      obtain ⟨fuel, ended⟩ := exists_fuel_of_not_goesOn stuck (spec.render pathParameters) (some query)
      obtain ⟨t, outcome, run, served⟩ := exists_served answers
        (merakiGet maxRetries fuel operation pathParameters query) 0
      rw [← merakiGet_accepted known accepted] at ended
      obtain ⟨result, rfl⟩ := Option.isSome_iff_exists.mp (run.meets ended served)
      exact ⟨fuel, t, result, served, run⟩
    · obtain ⟨error, raised⟩ := merakiGet_refused accepted
      refine ⟨0, [], .error (.api error), trivial, ?_⟩
      rw [raised]
      exact .refl _

end pages

/-! ## A page that links to itself -/

/-- The networks of an organization, as their own next page. -/
def networksLink : LinkUrl where
  text := "https://api.meraki.com/api/v1" ++ "/organizations/1/networks?perPage=5".toList
  stripped := by decide

def repeatedPage : Nat → HttpOutcome := fun _ => .response ⟨200, some (.array []), some networksLink⟩

theorem repeatedPage_goesOn (maxRetries : Nat) :
    @GoesOn lenientHosts repeatedPage maxRetries "networks" networksSpec := by
  have settled (n : Nat) : ¬Retried (repeatedPage n) := by
    rintro (limited | failed)
    · cases limited
    · revert failed
      decide
  have valid : @validateNextUrl lenientHosts "networks" networksSpec networksLink.text = .ok networksLink.text := by
    decide +kernel
  refine @GoesOn.mk lenientHosts _ _ _ _ (fun n => .inr ?_) fun k => ⟨0, Nat.zero_le _, settled k⟩
  exact ⟨by decide, .inl ⟨[], rfl⟩, networksLink, _, rfl, by decide, valid⟩

theorem not_ends_repeatedPage : ∃ _ : Url.HostRules, ¬∀ (answers : Nat → HttpOutcome) (maxRetries : Nat)
    (operation : Text) (pathParameters : Dict Text Text) (query : QueryParameters),
      Ends answers maxRetries operation pathParameters query := by
  refine ⟨lenientHosts, fun claimed => ?_⟩
  obtain ⟨fuel, t, outcome, served, run⟩ := claimed repeatedPage 3 "networks" networksParameters []
  have known : Dict.get? merakiOperations "networks" = some networksSpec := by decide +kernel
  have accepted : AcceptedRequest networksSpec networksParameters [] :=
    ⟨fun name => by simp [networksParameters, networksSpec, Dict.keys], by simp [Dict.keys], by decide +kernel⟩
  rw [@merakiGet_accepted "networks" lenientHosts networksSpec 3 _ _ known accepted] at run
  have endless := run.meets (@getPages_goesOn _ _ lenientHosts _ _ (repeatedPage_goesOn 3) fuel _ _ _ _
    fun _ => rfl) served
  cases endless

end SwitchOps
