import SwitchOps.Unified.MerakiClient

/-!
# Where the Meraki client sends its requests

Every request goes to `https://api.meraki.com`, with query keys of its operation. The first one has
the path of the operation's template; a later one is for a link that the server supplied, whose path
is below `/api/v1/` but need not be that of the operation.
-/

namespace SwitchOps

open Effects Effects.Program

/-- The HTTP client, which is given `BASE_URL`: a path is requested below it, and a URL that has a
scheme and a host is requested as it is. -/
class HttpClient [Url.HostRules] where
  target : Text → Text
  target_path : ∀ path, Text.startsWith path "/" = true → Text.startsWith path "//" = false →
    target path = baseUrl ++ path
  target_url : ∀ url parsed, url.head? ≠ some ' ' → Url.parse url = some parsed →
    parsed.scheme ≠ [] → parsed.netloc ≠ [] → target url = url

/-- The link that an answer supplies. -/
def suppliedLink : (effect : MerakiEffect) → effect.Answer → List Text
  | .request _ _, .response response => response.next.toList.map (·.text)
  | _, _ => []

/-- The links that the server has supplied. -/
def suppliedLinks (t : List (Event MerakiEffect MerakiEffect.Answer)) : List Text :=
  t.flatMap fun event => suppliedLink event.op event.answer

/-- Whenever a program is about to request something, `P` holds of the links supplied so far and of
what is requested. -/
def EveryRequest {α : Type} (P : List Text → Text → Option QueryParameters → Prop)
    (p : Meraki α) : Prop :=
  ∀ t url params k, Exec p t (.op (.request url params) k) → P (suppliedLinks t) url params

/-- The path parameters are those of the operation, and valid. -/
structure AcceptedPath (spec : MerakiOperationSpec) (pathParameters : Dict Text Text) : Prop where
  keys : ∀ name, name ∈ Dict.keys pathParameters ↔ name ∈ spec.pathParameters
  values : ∀ value ∈ Dict.values pathParameters, isPathValue value = true

/-- The path of the operation itself. -/
def operationPath (spec : MerakiOperationSpec) (pathParameters : Dict Text Text) : Text :=
  merakiBase.path ++ spec.render pathParameters

/-- The request goes to the dashboard, with query keys of the operation only. -/
structure WithinOrigin (spec : MerakiOperationSpec) (params : Option QueryParameters)
    (parsed : Url.Parsed) : Prop where
  scheme : parsed.scheme = merakiBase.scheme
  netloc : parsed.netloc = merakiBase.netloc
  linkKeys : ∀ key ∈ (Url.parseQsl parsed.query).map (·.1), key ∈ spec.queryParameters
  paramKeys : ∀ query ∈ params, ∀ key ∈ Dict.keys query, key ∈ spec.queryParameters

/-- The URL begins with `https://api.meraki.com/api/v1/`, the scheme in any case. -/
def SpelledBelowBase (url : Text) : Prop :=
  ∃ scheme rest, Text.lower scheme = merakiBase.scheme ∧
    Url.clean url = scheme ++ ':' :: '/' :: '/' :: merakiBase.netloc ++ merakiBase.path ++ '/' :: rest

section confinement

variable [Url.HostRules] [HttpClient]

/-- A request for an operation: allowlisted, with accepted parameters, within its origin, and for a
path of which `P` holds. -/
def RequestFor (P : MerakiOperationSpec → List Text → Text → Url.Parsed → Prop) (operation : Text)
    (pathParameters : Dict Text Text) (links : List Text) (url : Text)
    (params : Option QueryParameters) : Prop :=
  ∃ spec, Dict.get? merakiOperations operation = some spec ∧ AcceptedPath spec pathParameters ∧
    ∃ parsed, Url.parse (HttpClient.target url) = some parsed ∧ WithinOrigin spec params parsed ∧
      P spec links url parsed

/-- Every request is for the path that the template renders. -/
def ConfinedToPath (operation : Text) (pathParameters : Dict Text Text) :
    List Text → Text → Option QueryParameters → Prop :=
  RequestFor (fun spec _ _ parsed => parsed.path = operationPath spec pathParameters) operation
    pathParameters

/-- The first request is for the path that the template renders, and every other one is for a link
that the server supplied, below the base URL. -/
def ConfinedToBase (operation : Text) (pathParameters : Dict Text Text) :
    List Text → Text → Option QueryParameters → Prop :=
  RequestFor (fun spec links url parsed =>
    (url = spec.render pathParameters ∧ parsed.path = operationPath spec pathParameters) ∨
      (url ∈ links ∧ Text.startsWith parsed.path (merakiBase.path ++ "/".toList) = true ∧
        SpelledBelowBase url)) operation pathParameters

/-! ## The first request -/

/-- A template that begins with one slash, has only plain characters and names its own parameters. -/
def plainTemplate (spec : MerakiOperationSpec) : Bool :=
  (match spec.path with
    | .text ('/' :: c :: _) :: _ => c != '/'
    | _ => false)
  && spec.path.all fun
    | .text text => text.all Url.isPlain
    | .parameter name => spec.pathParameters.contains name

omit [Url.HostRules] [HttpClient] in
theorem plainTemplate_of_get? {operation : Text} {spec : MerakiOperationSpec}
    (known : Dict.get? merakiOperations operation = some spec) : plainTemplate spec = true :=
  (by decide : ∀ entry ∈ merakiOperations, plainTemplate entry.2 = true) _ (Dict.mem_of_get? known)

omit [Url.HostRules] [HttpClient] in
theorem isPlain_of_isPathChar {c : Char} (h : isPathChar c = true) : Url.isPlain c = true := by
  simp only [isPathChar, Url.isPlain, Url.isAsciiLetter, Bool.or_eq_true, Bool.and_eq_true] at h ⊢
  tauto

omit [Url.HostRules] [HttpClient] in
/-- What a template renders with valid parameters is plain. -/
theorem render_plain {operation : Text} {spec : MerakiOperationSpec} {pathParameters : Dict Text Text}
    (known : Dict.get? merakiOperations operation = some spec)
    (accepted : AcceptedPath spec pathParameters) :
    ∃ c path, spec.render pathParameters = '/' :: c :: path ∧ c ≠ '/' ∧
      ∀ d ∈ spec.render pathParameters, Url.isPlain d = true := by
  have plain := plainTemplate_of_get? known
  simp only [plainTemplate, Bool.and_eq_true, List.all_eq_true] at plain
  obtain ⟨begins, parts⟩ := plain
  have characters : ∀ d ∈ spec.render pathParameters, Url.isPlain d = true := by
    intro d hd
    obtain ⟨part, hpart, hd⟩ := List.mem_flatMap.mp hd
    have allowed := parts part hpart
    cases part with
    | text text => exact List.all_eq_true.mp allowed d hd
    | parameter name =>
      cases value : Dict.get? pathParameters name with
      | none => simp [value] at hd
      | some text =>
        have valid := accepted.values text (List.mem_map_of_mem (Dict.mem_of_get? value))
        simp only [isPathValue, Bool.and_eq_true, List.all_eq_true] at valid
        exact isPlain_of_isPathChar (valid.2 d (by simpa [value] using hd))
  split at begins
  · next c text rest path =>
    refine ⟨c, text ++ rest.flatMap fun
      | .text text => text
      | .parameter name => (Dict.get? pathParameters name).getD [], ?_, by simpa using begins,
      characters⟩
    rw [MerakiOperationSpec.render, path]
    rfl
  · cases begins

/-- The first request. -/
theorem confined_first {operation : Text} {spec : MerakiOperationSpec}
    {pathParameters : Dict Text Text} {links : List Text} {query : QueryParameters}
    (known : Dict.get? merakiOperations operation = some spec)
    (accepted : AcceptedPath spec pathParameters)
    (keys : ∀ key ∈ Dict.keys query, key ∈ spec.queryParameters) :
    ConfinedToBase operation pathParameters links (spec.render pathParameters) (some query) := by
  obtain ⟨c, path, rendered, single, plain⟩ := render_plain known accepted
  have target := HttpClient.target_path (spec.render pathParameters)
    (by simp [rendered, Text.startsWith])
    (by simp [rendered, Text.startsWith, List.isPrefixOf, single.symm])
  have parsed : Url.parse (baseUrl ++ spec.render pathParameters) = some {
      scheme := merakiBase.scheme, netloc := merakiBase.netloc
      path := operationPath spec pathParameters, query := [] } := by
    refine @Url.parse_of_isPlain _ merakiBase.netloc ("api/v1".toList ++ spec.render pathParameters) (by decide)
      fun d hd => ?_
    rcases List.mem_append.mp hd with hd | hd
    · exact (by decide : ∀ d ∈ "api/v1".toList, Url.isPlain d = true) d hd
    · exact plain d hd
  rw [← target] at parsed
  refine ⟨spec, known, accepted, _, parsed, ⟨rfl, rfl, ?_, ?_⟩, .inl ⟨rfl, rfl⟩⟩
  · intro key hkey
    cases hkey
  · intro query' same key hkey
    cases same
    exact keys key hkey

/-! ## One link -/

/-- A link that passes is within the origin, and spelled below the base. -/
theorem confined_of_validate {operation : Text} {spec : MerakiOperationSpec}
    {pathParameters : Dict Text Text} {links : List Text} {candidate : LinkUrl} {nextUrl : Text}
    (known : Dict.get? merakiOperations operation = some spec)
    (accepted : AcceptedPath spec pathParameters)
    (supplied : candidate.text ∈ links)
    (h : validateNextUrl operation spec candidate.text = .ok nextUrl) :
    ConfinedToBase operation pathParameters links nextUrl none := by
  unfold validateNextUrl at h
  split at h
  · cases h
  next parsed hparsed =>
  split at h
  · cases h
  next origin =>
  split at h
  · cases h
  next below =>
  split at h
  · cases h
  next keys =>
  obtain rfl := Except.ok.inj h
  obtain ⟨hscheme, hnetloc⟩ : parsed.scheme = merakiBase.scheme ∧ parsed.netloc = merakiBase.netloc :=
    by simpa using origin
  have schemed : parsed.scheme ≠ [] := by rw [hscheme]; decide
  have located : parsed.netloc ≠ [] := by rw [hnetloc]; decide
  have startsBelow : Text.startsWith parsed.path (merakiBase.path ++ "/".toList) = true := by
    simpa using below
  refine ⟨spec, known, accepted, parsed, ?_, ⟨hscheme, hnetloc, ?_, by simp⟩, .inr
    ⟨supplied, startsBelow, ?_⟩⟩
  · rw [HttpClient.target_url candidate.text parsed candidate.stripped hparsed schemed located]
    exact hparsed
  · intro key hkey
    have all : ((Url.parseQsl parsed.query).map (·.1)).all spec.queryParameters.contains = true := by
      simpa using keys
    simpa using List.all_eq_true.mp all key hkey
  · obtain ⟨scheme, rest, lowered, spelled⟩ := Url.spells_of_parse hparsed schemed located
    obtain ⟨below', path⟩ := List.isPrefixOf_iff_prefix.mp startsBelow
    refine ⟨scheme, below' ++ rest, lowered.trans hscheme, ?_⟩
    rw [spelled, ← path, hnetloc]
    simp

/-! ## Every run -/

section runs

variable {α : Type} {P : List Text → Text → Option QueryParameters → Prop}

/-- Requests of which `P` holds, given the links supplied before. -/
def requesting (P : List Text → Text → Option QueryParameters → Prop) :
    Discipline MerakiEffect MerakiEffect.Answer (List Text) where
  allowed links
    | .request url params => P links url params
    | .sleep => True
  answers _ _ _ := True
  next links effect answer := links ++ suppliedLink effect answer

omit [Url.HostRules] [HttpClient] in
theorem everyRequest_of_meets {p : Meraki α} {Q : α → List Text → Prop}
    (h : Meets (requesting P) p [] Q) : EveryRequest P p := by
  intro t url params k run
  have answered : ∀ (links : List Text) t, Answered (requesting P) links t := by
    intro links t
    induction t generalizing links with
    | nil => trivial
    | cons event t ih => exact ⟨trivial, ih _⟩
  have links : ∀ (links : List Text) t, after (requesting P) links t = links ++ suppliedLinks t := by
    intro links t
    induction t generalizing links with
    | nil => exact (List.append_nil links).symm
    | cons event t ih =>
      rw [after, ih]
      exact List.append_assoc ..
  have rest := run.meets h (answered [] t)
  rw [links] at rest
  exact rest.1

variable {operation : Text}

omit [Url.HostRules] [HttpClient] in
theorem response_of_attemptOutcome {last : Bool} {answer : HttpOutcome} {response : MerakiResponse}
    (h : attemptOutcome operation last answer = some (.ok response)) : answer = .response response := by
  cases answer with
  | raised => cases h
  | httpError =>
    cases last with
    | true => cases h
    | false => cases h
  | response answered =>
    simp only [attemptOutcome] at h
    split at h
    · cases h
      rfl
    split at h
    · cases h
    split at h
    · cases h
    split at h
    · cases h
    · cases h

omit [Url.HostRules] [HttpClient] in
/-- The attempts at one page: whatever else the server links to meanwhile, the link of the response
is one that it supplied. -/
theorem requestWithRetry_meets {url : Text} {params : Option QueryParameters} (left : Nat)
    {links : List Text} (h : ∀ more, P (links ++ more) url params) :
    Meets (requesting P) (requestWithRetry operation url params left) links fun outcome links' =>
      ∀ response, outcome = .ok response → ∀ link ∈ response.next, link.text ∈ links' := by
  have supplied (links : List Text) (answer : HttpOutcome) (response : MerakiResponse)
      (same : answer = .response response) (link : LinkUrl) (hlink : link ∈ response.next) :
      link.text ∈ (requesting P).next links (.request url params) answer := by
    subst same
    apply List.mem_append_right
    exact List.mem_map_of_mem (Option.mem_toList.mpr hlink)
  induction left generalizing links with
  | zero =>
    refine ⟨by simpa [requesting] using h [], fun answer _ response outcome link hlink => ?_⟩
    apply supplied _ answer response _ link hlink
    cases judged : attemptOutcome operation true answer with
    | none => simp [judged] at outcome
    | some result =>
      simp only [judged, Option.getD_some] at outcome
      exact response_of_attemptOutcome (outcome ▸ judged)
  | succ left ih =>
    refine meets_bind.mpr (meets_perform.mpr ⟨by simpa [requesting] using h [], fun answer _ => ?_⟩)
    split
    · next result judged =>
      intro response outcome link hlink
      exact supplied _ answer response (response_of_attemptOutcome (outcome ▸ judged)) link hlink
    · refine ⟨trivial, fun _ _ => ih fun more => ?_⟩
      simpa [requesting, suppliedLink] using h _

/-- A page was read, and its link decides what comes next. -/
theorem followNext_meets {spec : MerakiOperationSpec} {pathParameters : Dict Text Text}
    (known : Dict.get? merakiOperations operation = some spec) (accepted : AcceptedPath spec pathParameters)
    {maxRetries fuel : Nat} {links : List Text} {response : MerakiResponse} (read : MerakiPages)
    (supplied : ∀ link ∈ response.next, link.text ∈ links)
    (more : ∀ nextUrl, (∀ more, ConfinedToBase operation pathParameters (links ++ more) nextUrl none) →
      Meets (requesting (ConfinedToBase operation pathParameters))
        (getPages operation spec maxRetries fuel nextUrl none read) links fun _ _ => True) :
    Meets (requesting (ConfinedToBase operation pathParameters))
      (match response.next with
      | none | some ⟨[], _⟩ =>
        (return some (.ok { data := read.all, complete := true, pages := read.pages }) :
          Meraki (Option (Except MerakiFailure MerakiApiResult)))
      | some candidate =>
        match validateNextUrl operation spec candidate.text with
        | .error (.api error) => return some (.ok (read.cutShort error.code))
        | .error .other => return some (.error .other)
        | .ok nextUrl => getPages operation spec maxRetries fuel nextUrl none read)
      links fun _ _ => True := by
  split
  · trivial
  · trivial
  · next candidate _ linked =>
    split
    · trivial
    · trivial
    · next nextUrl valid =>
      refine more nextUrl fun more => confined_of_validate known accepted ?_ valid
      exact List.mem_append_left more (supplied candidate linked)

/-- The pages: each request leads to the next one through a link that passed. -/
theorem getPages_meets {spec : MerakiOperationSpec} {pathParameters : Dict Text Text}
    (known : Dict.get? merakiOperations operation = some spec)
    (accepted : AcceptedPath spec pathParameters) (maxRetries fuel : Nat) {url : Text}
    {params : Option QueryParameters} {read : MerakiPages} {links : List Text}
    (h : ∀ more, ConfinedToBase operation pathParameters (links ++ more) url params) :
    Meets (requesting (ConfinedToBase operation pathParameters))
      (getPages operation spec maxRetries fuel url params read) links fun _ _ => True := by
  induction fuel generalizing url params read links with
  | zero => trivial
  | succ fuel ih =>
    refine (requestWithRetry_meets maxRetries h).bind fun outcome links' supplied => ?_
    cases outcome with
    | error failure => cases failure <;> trivial
    | ok response =>
      have onward (read : MerakiPages) := followNext_meets known accepted read (supplied response rfl)
        fun _ confined => ih confined
      dsimp only
      split
      · exact onward _
      · split
        · trivial
        · exact onward _
      · trivial

/-- **Where the client sends its requests**: for every operation, whatever it is given and whatever
links the server supplies. A request that is not of this kind is never made. -/
theorem merakiGet_confinedToBase (maxRetries fuel : Nat) (operation : Text)
    (pathParameters : Dict Text Text) (query : QueryParameters) :
    EveryRequest (ConfinedToBase operation pathParameters)
      (merakiGet maxRetries fuel operation pathParameters query) := by
  refine everyRequest_of_meets (Q := fun _ _ => True) ?_
  unfold merakiGet
  dsimp only
  split
  · trivial
  next spec known =>
  split
  · trivial
  next names =>
  split
  · trivial
  next keys =>
  split
  · trivial
  next values =>
  simp only [not_not, List.all_eq_true, List.contains_iff_mem] at names
  have accepted : AcceptedPath spec pathParameters := by
    refine ⟨fun name => ⟨names.1 name, names.2 name⟩, fun value hvalue => ?_⟩
    have all : (Dict.values pathParameters).all isPathValue = true := by simpa using values
    exact List.all_eq_true.mp all value hvalue
  refine getPages_meets known accepted maxRetries fuel fun more => confined_first known accepted ?_
  intro key hkey
  have all : (Dict.keys query).all spec.queryParameters.contains = true := by simpa using keys
  simpa using List.all_eq_true.mp all key hkey

end runs

end confinement

/-! ### A link to another operation -/

@[reducible] def lenientHosts : Url.HostRules := ⟨fun _ => false⟩

theorem scheme_of_slash {rest : Text} {parsed : Url.Parsed}
    (h : @Url.parse lenientHosts ('/' :: rest) = some parsed) : parsed.scheme = [] := by
  let hosts := lenientHosts
  have noScheme (text : Text) : (Url.splitScheme ('/' :: text)).1 = [] := by
    unfold Url.splitScheme
    split
    · rfl
    · rfl
  have cleaned : Url.clean ('/' :: rest) = '/' :: rest.filter
      fun c => !(c == '\t' || c == '\r' || c == '\n') := rfl
  simp only [Url.parse] at h
  split at h
  · cases h
  · obtain rfl := Option.some.inj h
    show (Url.splitScheme (Url.clean ('/' :: rest))).1 = []
    rw [cleaned, noScheme]

/-- The client, as far as the URLs go that it is given. -/
@[reducible] def plainClient : @HttpClient lenientHosts :=
  @HttpClient.mk lenientHosts
    (fun url => if Text.startsWith url "/" = true ∧ Text.startsWith url "//" = false
      then baseUrl ++ url else url)
    (fun _ single double => if_pos ⟨single, double⟩)
    (fun url parsed _ h schemed _ => by
      refine if_neg fun path => ?_
      obtain ⟨rest, rfl⟩ := List.isPrefixOf_iff_prefix.mp path.1
      exact schemed (scheme_of_slash h))

/-- A page whose list is read, up to what its link leads to. -/
theorem exec_page [Url.HostRules] {operation : Text} {spec : MerakiOperationSpec} {fuel : Nat} {url : Text}
    {params : Option QueryParameters} {read : MerakiPages} {items : List Json} {link : LinkUrl}
    (named : link.text ≠ []) :
    Exec (getPages operation spec 0 (fuel + 1) url params read)
      [⟨.request url params, .response ⟨200, some (.array items), some link⟩⟩]
      (match validateNextUrl operation spec link.text with
      | .error (.api error) => return some (.ok (MerakiPages.cutShort
        { read with data := read.data ++ items.filter isDict, pages := read.pages + 1 } error.code))
      | .error .other => return some (.error .other)
      | .ok nextUrl => getPages operation spec 0 fuel nextUrl none
        { read with data := read.data ++ items.filter isDict, pages := read.pages + 1 }) := by
  obtain ⟨text, stripped⟩ := link
  cases text with
  | nil => exact absurd rfl named
  | cons c rest =>
    exact Exec.step (ρ := MerakiEffect.Answer) (i := .request url params)
      (.response ⟨200, some (.array items), some ⟨c :: rest, stripped⟩⟩) (.refl _)

def networksSpec : MerakiOperationSpec where
  path := [.text "/organizations/", .parameter "organization_id", .text "/networks"]
  pathParameters := ["organization_id"]
  queryParameters := ["perPage", "startingAfter", "endingBefore"]

def networksParameters : Dict Text Text := [("organization_id", "1".toList)]

/-- The devices of another organization, linked from the networks of this one. -/
def devicesLink : LinkUrl where
  text := "https://api.meraki.com/api/v1" ++ "/organizations/2/devices?perPage=5".toList
  stripped := by decide

def networksAnswer : HttpOutcome := .response ⟨200, some (.array []), some devicesLink⟩

/-- The link passes, and is requested: its path is that of another operation. -/
theorem not_confinedToPath_networks :
    ¬@EveryRequest _ (@ConfinedToPath lenientHosts plainClient "networks" networksParameters)
      (@merakiGet lenientHosts 0 2 "networks" networksParameters []) := by
  intro confined
  have known : Dict.get? merakiOperations "networks" = some networksSpec := by decide +kernel
  have opened : @merakiGet lenientHosts 0 2 "networks" networksParameters []
      = @getPages lenientHosts "networks" networksSpec 0 2 (networksSpec.render networksParameters)
        (some []) {} := by
    unfold merakiGet
    rw [known]
    dsimp only
    rw [if_neg (by decide +kernel), if_neg (by decide +kernel), if_neg (by decide +kernel)]
  have valid : @validateNextUrl lenientHosts "networks" networksSpec devicesLink.text
      = .ok devicesLink.text := by decide +kernel
  have run : Exec (@merakiGet lenientHosts 0 2 "networks" networksParameters [])
      [⟨.request (networksSpec.render networksParameters) (some []), networksAnswer⟩]
      (@getPages lenientHosts "networks" networksSpec 0 1 devicesLink.text none { pages := 1 }) := by
    rw [opened]
    have page := @exec_page lenientHosts "networks" networksSpec 1 (networksSpec.render networksParameters)
      (some []) {} [] devicesLink (by decide)
    rw [valid] at page
    exact page
  obtain ⟨spec, same, -, parsed, target, -, path⟩ := confined _ devicesLink.text none _ run
  obtain rfl := Option.some.inj (known.symm.trans same)
  have parsed' : @Url.parse lenientHosts (plainClient.target devicesLink.text) = some {
      scheme := "https", netloc := "api.meraki.com", path := "/api/v1/organizations/2/devices"
      query := "perPage=5" } := by decide +kernel
  obtain rfl := Option.some.inj (parsed'.symm.trans target)
  exact absurd path (by decide +kernel)

end SwitchOps
