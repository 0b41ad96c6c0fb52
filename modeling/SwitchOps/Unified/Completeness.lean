import SwitchOps.Unified.PageTermination

/-!
# Complete results

The collector revokes what a complete result no longer lists. `get` reports a result as complete just if the
last page read has no next link and every page after the first is a list (`merakiGet_result`). It does not
notice what it leaves out on the way: the items of a list that are no objects, and the lists that follow an
object. `complete_iff_kept` says when a complete result has everything.
-/

namespace SwitchOps

open Effects Effects.Program

/-! ## Pages -/

/-- The page that an answer brings. -/
def pageOf : (effect : MerakiEffect) → effect.Answer → List MerakiResponse
  | .request _ _, .response response =>
    if 200 ≤ response.statusCode ∧ response.statusCode < 300 then [response] else []
  | _, _ => []

/-- The pages of a run, in their order. -/
def pagesOf (t : List (Event MerakiEffect MerakiEffect.Answer)) : List MerakiResponse :=
  t.flatMap fun event => pageOf event.op event.answer

/-- The items of a page: those of a list, or the one object. -/
def MerakiResponse.items (page : MerakiResponse) : List Json :=
  match page.body with
  | some (.array items) => items
  | some (.object members) => [.object members]
  | _ => []

def MerakiData.items : MerakiData → List Json
  | .list items => items
  | .dict members => [members]

def MerakiResponse.isList (page : MerakiResponse) : Bool :=
  match page.body with
  | some (.array _) => true
  | _ => false

def MerakiResponse.isObject (page : MerakiResponse) : Bool :=
  match page.body with
  | some (.object _) => true
  | _ => false

/-- The page names no next one. -/
def MerakiResponse.isLast (page : MerakiResponse) : Bool :=
  match page.next with
  | none | some ⟨[], _⟩ => true
  | _ => false

/-- The first page is a list or an object, and every other one a list. -/
def PagesReadable : List MerakiResponse → Prop
  | [] => True
  | first :: rest => (first.isList = true ∨ first.isObject = true) ∧ ∀ page ∈ rest, page.isList = true

/-- All pages were read, up to one that names no next one. -/
structure Finished (pages : List MerakiResponse) : Prop where
  readable : PagesReadable pages
  last : ∃ page ∈ pages.getLast?, page.isLast = true

/-- Nothing that the pages have is left out: all items are objects, and no list after an object has any. -/
structure Kept (pages : List MerakiResponse) : Prop where
  objects : ∀ page ∈ pages, ∀ item ∈ page.items, isDict item = true
  lists : ∀ first ∈ pages.head?, first.isObject = true → ∀ page ∈ pages.tail, page.items = []

/-! ## What is read -/

/-- The pages read so far, as the loop keeps them. -/
structure ReadAs (read : MerakiPages) (pages : List MerakiResponse) : Prop where
  readable : PagesReadable pages
  count : read.pages = pages.length
  data : read.data = (pages.filter (·.isList)).flatMap fun page => page.items.filter isDict
  first : read.firstDict = pages.head?.bind fun page => if page.isObject then page.items.head? else none

theorem readAs_nil : ReadAs {} [] := ⟨trivial, rfl, rfl, rfl⟩

theorem PagesReadable.concat {pages : List MerakiResponse} {page : MerakiResponse} (h : PagesReadable pages)
    (fits : page.isList = true ∨ (pages = [] ∧ page.isObject = true)) : PagesReadable (pages ++ [page]) := by
  cases pages with
  | nil => exact ⟨fits.imp_right (·.2), by simp⟩
  | cons first rest =>
    rcases fits with isList | ⟨none, -⟩
    · refine ⟨h.1, fun other among => ?_⟩
      rcases List.mem_append.mp among with among | among
      · exact h.2 other among
      · rw [List.mem_singleton.mp among]
        exact isList
    · cases none

theorem isObject_iff {page : MerakiResponse} :
    page.isObject = true ↔ ∃ members, page.body = some (.object members) := by
  unfold MerakiResponse.isObject
  split
  · next members body => exact iff_of_true rfl ⟨members, body⟩
  · next other => exact iff_of_false (by simp) fun ⟨members, body⟩ => other members body

theorem isList_iff {page : MerakiResponse} : page.isList = true ↔ ∃ items, page.body = some (.array items) := by
  unfold MerakiResponse.isList
  split
  · next items body => exact iff_of_true rfl ⟨items, body⟩
  · next other => exact iff_of_false (by simp) fun ⟨items, body⟩ => other items body

theorem not_isObject_of_isList {page : MerakiResponse} (h : page.isList = true) : page.isObject = false := by
  obtain ⟨items, body⟩ := isList_iff.mp h
  rw [MerakiResponse.isObject, body]

theorem not_isList_of_isObject {page : MerakiResponse} (h : page.isObject = true) : page.isList = false := by
  obtain ⟨members, body⟩ := isObject_iff.mp h
  rw [MerakiResponse.isList, body]

theorem items_of_isObject {page : MerakiResponse} (h : page.isObject = true) :
    ∃ item, page.items = [item] ∧ isDict item = true := by
  obtain ⟨members, body⟩ := isObject_iff.mp h
  refine ⟨.object members, ?_, rfl⟩
  rw [MerakiResponse.items, body]

/-- What is read has everything on every page just if nothing is left out. -/
theorem ReadAs.items_eq_iff {read : MerakiPages} {pages : List MerakiResponse} (h : ReadAs read pages)
    (nonempty : pages ≠ []) : read.all.items = pages.flatMap (·.items) ↔ Kept pages := by
  cases pages with
  | nil => exact absurd rfl nonempty
  | cons first rest =>
    obtain ⟨begins, lists⟩ := h.readable
    rw [MerakiPages.all, h.first, List.head?_cons, Option.bind_some]
    by_cases object : first.isObject = true
    · obtain ⟨item, only, isItem⟩ := items_of_isObject object
      rw [if_pos object, only, List.flatMap_cons, only]
      simp only [List.head?_cons, MerakiData.items, List.singleton_append, List.cons.injEq, true_and]
      rw [eq_comm, List.flatMap_eq_nil_iff]
      constructor
      · intro empty
        refine ⟨fun page among item' here => ?_, fun _ _ _ => empty⟩
        rcases List.mem_cons.mp among with rfl | among
        · rw [only, List.mem_singleton] at here
          rwa [here]
        · rw [empty page among] at here
          cases here
      · intro kept
        exact kept.lists first rfl object
    · have isList : first.isList = true := begins.resolve_right object
      have all : (first :: rest).filter (·.isList) = first :: rest := by
        rw [List.filter_eq_self]
        intro page among
        rcases List.mem_cons.mp among with rfl | among
        · exact isList
        · exact lists page among
      rw [if_neg object]
      dsimp only [MerakiData.items]
      rw [h.data, all, ← List.filter_flatMap, List.filter_eq_self]
      constructor
      · intro dicts
        refine ⟨fun page among item here => dicts item (List.mem_flatMap.mpr ⟨page, among, here⟩), ?_⟩
        intro page begins isObject
        cases begins
        exact absurd isObject object
      · intro kept item among
        obtain ⟨page, here, among⟩ := List.mem_flatMap.mp among
        exact kept.objects page here item among

/-! ## Every run -/

section runs

variable [Url.HostRules] {operation : Text} {spec : MerakiOperationSpec} {maxRetries : Nat}

/-- The pages, written down as they are read. -/
abbrev pageLedger : Discipline MerakiEffect MerakiEffect.Answer (List MerakiResponse) :=
  ledger fun pages effect answer => pages ++ pageOf effect answer

omit [Url.HostRules] in
theorem pageLedger_next (pages : List MerakiResponse) (effect : MerakiEffect) (answer : effect.Answer) :
    pageLedger.next pages effect answer = pages ++ pageOf effect answer := rfl

omit [Url.HostRules] in
theorem after_pageLedger (pages : List MerakiResponse) (t : List (Event MerakiEffect MerakiEffect.Answer)) :
    after pageLedger pages t = pages ++ pagesOf t := by
  induction t generalizing pages with
  | nil => exact (List.append_nil pages).symm
  | cons event t ih =>
    rw [after, ih]
    exact List.append_assoc ..

omit [Url.HostRules] in
/-- An answer brings a page just if the attempt returns it. -/
theorem pageOf_attempt (operation : Text) (last : Bool) (answer : HttpOutcome) (url : Text) (params : Option QueryParameters) :
    (∃ response, attemptOutcome operation last answer = some (.ok response) ∧
        pageOf (.request url params) answer = [response]) ∨
      ((∀ response, attemptOutcome operation last answer ≠ some (.ok response)) ∧
        pageOf (.request url params) answer = []) := by
  cases answer with
  | httpError =>
    refine .inr ⟨fun response returned => ?_, rfl⟩
    cases response_of_attemptOutcome returned
  | raised =>
    refine .inr ⟨fun response returned => ?_, rfl⟩
    cases response_of_attemptOutcome returned
  | response answered =>
    by_cases success : 200 ≤ answered.statusCode ∧ answered.statusCode < 300
    · refine .inl ⟨answered, ?_, if_pos success⟩
      rw [attemptOutcome, if_pos success]
    · refine .inr ⟨fun response returned => ?_, if_neg success⟩
      cases response_of_attemptOutcome returned
      exact success (success_of_attemptOutcome returned)

omit [Url.HostRules] in
/-- The attempts at a page bring it, or none. -/
theorem requestWithRetry_pages (url : Text) (params : Option QueryParameters) (left : Nat)
    (pages : List MerakiResponse) :
    Meets pageLedger (requestWithRetry operation url params left) pages fun outcome pages' =>
      (∃ response, outcome = .ok response ∧ pages' = pages ++ [response]) ∨
        ((∀ response, outcome ≠ .ok response) ∧ pages' = pages) := by
  induction left with
  | zero =>
    refine ⟨trivial, fun answer _ => ?_⟩
    rw [pageLedger_next]
    rcases pageOf_attempt operation true answer url params with ⟨response, returned, page⟩ | ⟨none, page⟩
    · exact .inl ⟨response, by rw [returned]; rfl, by rw [page]⟩
    · refine .inr ⟨fun response raised => ?_, by rw [page, List.append_nil]⟩
      cases judged : attemptOutcome operation true answer with
      | none => rw [judged] at raised; cases raised
      | some outcome =>
        rw [judged] at raised none
        exact none response (congrArg some raised)
  | succ left ih =>
    refine meets_bind.mpr (meets_perform.mpr ⟨trivial, fun answer _ => ?_⟩)
    rw [pageLedger_next]
    rcases pageOf_attempt operation false answer url params with ⟨response, returned, page⟩ | ⟨none, page⟩
    · rw [returned]
      exact .inl ⟨response, rfl, by rw [page]⟩
    · rw [page, List.append_nil]
      split
      · next outcome judged => exact .inr ⟨fun response ok => none response (ok ▸ judged), rfl⟩
      · refine ⟨trivial, fun _ _ => ?_⟩
        rw [pageLedger_next, show pageOf .sleep _ = [] from rfl, List.append_nil]
        exact ih

/-- What is reported: a result is complete just if the pages are finished, and then it is what was read. -/
def Reports (result : MerakiApiResult) (pages : List MerakiResponse) : Prop :=
  (result.complete = true ↔ Finished pages) ∧
    (result.complete = true → ∃ read, ReadAs read pages ∧ result.data = read.all)

omit [Url.HostRules] in
theorem ReadAs.all_reports {read : MerakiPages} {pages : List MerakiResponse} (h : ReadAs read pages)
    {page : MerakiResponse} (last : page ∈ pages.getLast?) (isLast : page.isLast = true) :
    Reports { data := read.all, complete := true, pages := read.pages } pages :=
  ⟨iff_of_true rfl ⟨h.readable, page, last, isLast⟩, fun _ => ⟨read, h, rfl⟩⟩

omit [Url.HostRules] in
theorem reports_of_unfinished {result : MerakiApiResult} {pages : List MerakiResponse}
    (incomplete : result.complete = false) (unfinished : ¬Finished pages) : Reports result pages := by
  refine ⟨iff_of_false (by rw [incomplete]; decide) unfinished, fun complete => ?_⟩
  rw [incomplete] at complete
  cases complete

/-- The pages so far all name a next one. -/
def Open (pages : List MerakiResponse) : Prop := ∀ page ∈ pages.getLast?, page.isLast = false

omit [Url.HostRules] in
theorem Open.not_finished {pages : List MerakiResponse} (h : Open pages) : ¬Finished pages := by
  rintro ⟨-, page, last, isLast⟩
  rw [h page last] at isLast
  cases isLast

omit [Url.HostRules] in
theorem failed_reports {read : MerakiPages} {pages : List MerakiResponse}
    (unfinished : ¬Finished pages) {error : MerakiApiError} {result : MerakiApiResult}
    (reported : read.failed error = .ok result) : Reports result pages := by
  unfold MerakiPages.failed at reported
  split at reported
  · cases reported
  · cases reported
    exact reports_of_unfinished rfl unfinished

omit [Url.HostRules] in
theorem ReadAs.list {read : MerakiPages} {pages : List MerakiResponse} (h : ReadAs read pages)
    {response : MerakiResponse} {items : List Json} (body : response.body = some (.array items)) :
    ReadAs { read with data := read.data ++ items.filter isDict, pages := read.pages + 1 } (pages ++ [response]) := by
  have isList : response.isList = true := isList_iff.mpr ⟨items, body⟩
  have all : response.items = items := by rw [MerakiResponse.items, body]
  refine ⟨h.readable.concat (.inl isList), ?_, ?_, ?_⟩
  · rw [List.length_append, ← h.count]
    rfl
  · rw [List.filter_append, List.flatMap_append, ← h.data, List.filter_cons_of_pos isList, ← all]
    simp
  · rw [h.first]
    cases pages with
    | nil => simp [not_isObject_of_isList isList]
    | cons first rest => rfl

omit [Url.HostRules] in
theorem ReadAs.object {read : MerakiPages} {pages : List MerakiResponse} (h : ReadAs read pages)
    (first : read.pages = 0) {response : MerakiResponse} {members : List (Text × Json)}
    (body : response.body = some (.object members)) :
    ReadAs { read with firstDict := some (.object members), pages := 1 } (pages ++ [response]) := by
  obtain rfl : pages = [] := List.length_eq_zero_iff.mp (h.count.symm.trans first)
  have object : response.isObject = true := isObject_iff.mpr ⟨members, body⟩
  have only : response.items = [.object members] := by rw [MerakiResponse.items, body]
  refine ⟨h.readable.concat (.inr ⟨rfl, object⟩), rfl, ?_, ?_⟩
  · rw [h.data, List.nil_append, List.filter_cons_of_neg (by simp [not_isList_of_isObject object])]
  · simp [object, only]

/-- The link of a page: it is the last one, it is reported as cut short, or the next one is requested. -/
theorem followNext_reports {fuel : Nat} {read : MerakiPages} {pages : List MerakiResponse} {response : MerakiResponse}
    (h : ReadAs read (pages ++ [response]))
    (onward : Open (pages ++ [response]) → ∀ nextUrl,
      Meets pageLedger (getPages operation spec maxRetries fuel nextUrl none read) (pages ++ [response])
        fun outcome pages' => ∀ result, outcome = some (.ok result) → Reports result pages') :
    Meets pageLedger
      (match response.next with
      | none | some ⟨[], _⟩ =>
        (return some (.ok { data := read.all, complete := true, pages := read.pages }) :
          Meraki (Option (Except MerakiFailure MerakiApiResult)))
      | some candidate =>
        match validateNextUrl operation spec candidate.text with
        | .error (.api error) => return some (.ok (read.cutShort error.code))
        | .error .other => return some (.error .other)
        | .ok nextUrl => getPages operation spec maxRetries fuel nextUrl none read)
      (pages ++ [response]) fun outcome pages' => ∀ result, outcome = some (.ok result) → Reports result pages' := by
  have last : response ∈ (pages ++ [response]).getLast? := by rw [List.getLast?_concat, Option.mem_def]
  split
  · next unlinked =>
    rintro _ ⟨rfl⟩
    exact h.all_reports last (by rw [MerakiResponse.isLast, unlinked])
  · next unlinked =>
    rintro _ ⟨rfl⟩
    exact h.all_reports last (by rw [MerakiResponse.isLast, unlinked])
  · next candidate named linked =>
    have opened : Open (pages ++ [response]) := by
      intro page here
      obtain rfl := Option.some.inj (last.symm.trans here)
      rw [MerakiResponse.isLast, linked]
      obtain ⟨text, stripped⟩ := candidate
      cases text with
      | nil => exact absurd rfl (named stripped)
      | cons c rest => rfl
    split
    · rintro _ ⟨rfl⟩
      exact reports_of_unfinished rfl opened.not_finished
    · rintro _ ⟨⟩
    · next nextUrl valid => exact onward opened nextUrl

theorem getPages_reports (fuel : Nat) {url : Text} {params : Option QueryParameters} {read : MerakiPages}
    {pages : List MerakiResponse} (h : ReadAs read pages) (opened : Open pages) :
    Meets pageLedger (getPages operation spec maxRetries fuel url params read) pages
      fun outcome pages' => ∀ result, outcome = some (.ok result) → Reports result pages' := by
  induction fuel generalizing url params read pages with
  | zero => rintro _ ⟨⟩
  | succ fuel ih =>
    refine (requestWithRetry_pages url params maxRetries pages).bind fun outcome pages' page => ?_
    rcases page with ⟨response, rfl, rfl⟩ | ⟨none, rfl⟩
    · dsimp only
      split
      · next items body =>
        have more := h.list body
        exact followNext_reports more fun opened nextUrl => ih more opened
      · next members body =>
        split
        · next later =>
          rintro _ ⟨rfl⟩
          refine reports_of_unfinished rfl fun finished => ?_
          cases pages with
          | nil => exact absurd h.count (Nat.pos_iff_ne_zero.mp later)
          | cons first rest =>
            have isList := finished.readable.2 response (by simp)
            rw [not_isList_of_isObject (isObject_iff.mpr ⟨members, body⟩)] at isList
            cases isList
        · next first =>
          have more := h.object (Nat.eq_zero_of_not_pos first) body
          exact followNext_reports more fun opened nextUrl => ih more opened
      · next noArray noObject =>
        rintro result reported
        refine failed_reports (fun finished => ?_) (Option.some.inj reported)
        have isList : response.isList = false := by
          rw [← Bool.not_eq_true, isList_iff]
          exact fun array => array.elim noArray
        have isObject : response.isObject = false := by
          rw [← Bool.not_eq_true, isObject_iff]
          exact fun object => object.elim noObject
        cases pages with
        | nil =>
          have begins := finished.readable.1
          rw [isList, isObject] at begins
          simp at begins
        | cons first rest =>
          have later := finished.readable.2 response (by simp)
          rw [isList] at later
          cases later
    · cases outcome with
      | ok response => exact absurd rfl (none response)
      | error failure =>
        cases failure with
        | other => rintro _ ⟨⟩
        | api error =>
          rintro result reported
          exact failed_reports opened.not_finished (Option.some.inj reported)

/-- **What `get` reports**, for every run that returns. -/
theorem merakiGet_reports {fuel : Nat} {pathParameters : Dict Text Text} {query : QueryParameters}
    {t : List (Event MerakiEffect MerakiEffect.Answer)} {result : MerakiApiResult}
    (run : Runs (merakiGet maxRetries fuel operation pathParameters query) t (some (.ok result))) :
    Reports result (pagesOf t) := by
  by_cases accepted : ∃ spec, Dict.get? merakiOperations operation = some spec ∧
      AcceptedRequest spec pathParameters query
  · obtain ⟨spec, known, accepted⟩ := accepted
    rw [merakiGet_accepted known accepted] at run
    have opened : Open [] := by
      intro page last
      cases last
    have reported := run.ledger (getPages_reports fuel readAs_nil opened) result rfl
    rwa [after_pageLedger, List.nil_append] at reported
  · obtain ⟨error, raised⟩ := merakiGet_refused accepted
    rw [raised] at run
    obtain ⟨-, same⟩ := runs_pure_iff.mp run
    cases same

/-- **Completeness**: a run that returns a result reports it as complete only with every item of every page,
just if its pages are not finished or nothing that they have is left out. -/
theorem complete_iff_kept {fuel : Nat} {pathParameters : Dict Text Text} {query : QueryParameters}
    {t : List (Event MerakiEffect MerakiEffect.Answer)} {result : MerakiApiResult}
    (run : Runs (merakiGet maxRetries fuel operation pathParameters query) t (some (.ok result))) :
    (result.complete = true → Finished (pagesOf t) ∧ result.data.items = (pagesOf t).flatMap (·.items)) ↔
      (Finished (pagesOf t) → Kept (pagesOf t)) := by
  obtain ⟨complete, data⟩ := merakiGet_reports run
  have whole (finished : Finished (pagesOf t)) :
      result.data.items = (pagesOf t).flatMap (·.items) ↔ Kept (pagesOf t) := by
    obtain ⟨read, readAs, same⟩ := data (complete.mpr finished)
    have nonempty : pagesOf t ≠ [] := by
      intro none
      obtain ⟨page, last, -⟩ := finished.last
      rw [none] at last
      cases last
    rw [same]
    exact readAs.items_eq_iff nonempty
  constructor
  · intro claimed finished
    exact (whole finished).mp (claimed (complete.mpr finished)).2
  · intro kept isComplete
    have finished := complete.mp isComplete
    exact ⟨finished, (whole finished).mpr (kept finished)⟩

end runs

/-! ## A list with a number in it -/

/-- One page of networks, with these items. -/
def networksPage (items : List Json) : List (Event MerakiEffect MerakiEffect.Answer) :=
  [⟨.request (networksSpec.render networksParameters) (some []), .response ⟨200, some (.array items), none⟩⟩]

theorem networksPage_runs (items : List Json) :
    Runs (@merakiGet lenientHosts 0 1 "networks" networksParameters []) (networksPage items)
      (some (.ok { data := .list (items.filter isDict), complete := true, pages := 1 })) := by
  have known : Dict.get? merakiOperations "networks" = some networksSpec := by decide +kernel
  have accepted : AcceptedRequest networksSpec networksParameters [] :=
    ⟨fun name => by simp [networksParameters, networksSpec, Dict.keys], by simp [Dict.keys], by decide +kernel⟩
  rw [@merakiGet_accepted "networks" lenientHosts networksSpec 0 _ _ known accepted]
  exact Exec.step (ρ := MerakiEffect.Answer) (i := .request (networksSpec.render networksParameters) (some []))
    (.response ⟨200, some (.array items), none⟩) (.refl _)

theorem complete_iff_kept_network : Finished (pagesOf (networksPage [.object []])) ∧
    [Json.object []] = (pagesOf (networksPage [.object []])).flatMap (·.items) := by
  refine (@complete_iff_kept lenientHosts "networks" 0 1 networksParameters [] _ _
    (networksPage_runs [.object []])).mpr (fun _ => ⟨?_, ?_⟩) rfl
  · intro page among item here
    obtain rfl := List.mem_singleton.mp among
    obtain rfl := List.mem_singleton.mp here
    rfl
  · intro first begins isObject
    cases begins
    cases isObject

theorem number_dropped : ∃ _ : Url.HostRules, ¬∀ (maxRetries fuel : Nat) (operation : Text)
    (pathParameters : Dict Text Text) (query : QueryParameters) (t : List (Event MerakiEffect MerakiEffect.Answer))
    (result : MerakiApiResult),
      Runs (merakiGet maxRetries fuel operation pathParameters query) t (some (.ok result)) →
        result.complete = true → Finished (pagesOf t) ∧ result.data.items = (pagesOf t).flatMap (·.items) := by
  refine ⟨lenientHosts, fun claimed => ?_⟩
  obtain ⟨-, whole⟩ := claimed 0 1 _ _ _ _ _ (networksPage_runs [.number 1]) rfl
  cases whole

end SwitchOps
