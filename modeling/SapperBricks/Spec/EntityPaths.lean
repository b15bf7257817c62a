import SapperBricks.Spec.NotifyReplication

/-!
# Ids in request paths

The route `/Entity/(.*)` captures everything that follows `/Entity/`, and `extractId` takes
what follows the last slash. The handler serves the entity that a path names only where the
two are the same.

## Key results

- `extractId_captured`: the two are the same for paths without another slash
- `getEntity_cases`, `setEntity_cases`: what the handler does with the id it takes
- `path_id_iff`: the paths and the entities that are served as they are named
-/

namespace SapperBricks.HttpHandler

variable {σ ν : Type}

/-! ## The two expressions -/

/-- The paths that the route matches. -/
theorem matchRoute_eq_some {path captured : String} :
    matchRoute path = some captured ↔
      path = "/Entity/" ++ captured ∧ captured.toList.all regexDot = true := by
  constructor
  · intro h
    unfold matchRoute at h
    split at h
    · rename_i hmatch
      cases h
      exact ⟨(append_substr hmatch.1).symm, hmatch.2⟩
    · exact nomatch h
  · rintro ⟨rfl, hdot⟩
    rw [matchRoute_entity, if_pos hdot]

/-- The last segment is the whole text exactly if there is no slash. -/
theorem lastSegment_eq_self {d : String} : lastSegment d = d ↔ '/' ∉ d.toList := by
  rw [lastSegment_eq_iff, rtakeWhile_slash_eq_self]

/-- What `extractId` takes from a path that the route matches. -/
theorem extractId_captured {path captured : String} (h : matchRoute path = some captured) :
    extractId path = .ok (lastSegment captured) := by
  obtain ⟨rfl, hdot⟩ := matchRoute_eq_some.mp h
  unfold extractId
  rw [matchLastSegment_entity, if_pos hdot]

/-- It is what the route captured exactly if that has no slash. -/
theorem extractId_eq_captured {path captured : String} (h : matchRoute path = some captured) :
    extractId path = .ok captured ↔ '/' ∉ captured.toList := by
  rw [extractId_captured h, Except.ok.injEq, lastSegment_eq_self]

/-! ## Requests -/

section Requests

/-- The response is the document of an entity. -/
def Answers (handler : HttpHandler σ ν) (response : HttpResponse) (entity : Entity) : Prop :=
  ∃ text, handler.json.dump (entityToJson entity) = .ok text ∧
    response = ⟨handler.converter.toHttp .ok, text, "application/json"⟩

variable {self : HttpHandler σ ν} {request : HttpRequest} {id : String} {s : σ × ν}

/-- The status and the response that come of what `GetEntity` returned or threw. -/
def lookupResult (handler : HttpHandler σ ν) (id : String) :
    Except Exn (Option Entity) → Except Exn Status × HttpResponse
  | .error e => (.error e, {})
  | .ok none => (.ok ⟨.notFound, "unknown entity with id " ++ id⟩, {})
  | .ok (some entity) =>
    match handler.json.dump (toJson entity) with
    | .error what => (.error (.jsonException what), {})
    | .ok text => (.ok .ok, ({} : HttpResponse).setContent text "application/json")

/-- What `getEntity` does with the id it takes from the path. -/
theorem getEntity_eq (hid : extractId request.path = .ok id) :
    self.getEntity request s =
      (self.finish (self.requestHandler.process (self.lookupResult id (self.api.getEntity id s).1).1)
        (self.lookupResult id (self.api.getEntity id s).1).2, (self.api.getEntity id s).2) := by
  unfold getEntity getEntityRequest lookupResult
  rw [hid]
  dsimp only
  -- The state is that of the core, whatever is found and printed
  cases self.api.getEntity id s with
  | mk r t =>
    cases r with
    | error e => rfl
    | ok found =>
      cases found with
      | none => rfl
      | some e => dsimp only; cases self.json.dump (toJson e) <;> rfl

/-- An entity that is found and can be printed is the answer. -/
theorem getEntity_found (hid : extractId request.path = .ok id) {entity : Entity} {text : String}
    (hget : (self.api.getEntity id s).1 = .ok (some entity))
    (hdump : self.json.dump (entityToJson entity) = .ok text) :
    (self.getEntity request s).1 = ⟨self.converter.toHttp .ok, text, "application/json"⟩ := by
  rw [getEntity_eq hid, hget]
  simp only [lookupResult, toJson, hdump]
  rfl

/-- The content type of a response is that of the entity that is set. -/
theorem finish_contentType (handler : HttpHandler σ ν) (status : Status)
    (response : HttpResponse) : (handler.finish status response).contentType =
      response.contentType := by
  unfold finish
  dsimp only
  split <;> rfl

/-- A response with a content type is the document of the entity that was found. -/
theorem getEntity_answers (hid : extractId request.path = .ok id)
    (htype : (self.getEntity request s).1.contentType ≠ "") :
    ∃ entity, (self.api.getEntity id s).1 = .ok (some entity) ∧
      self.Answers (self.getEntity request s).1 entity := by
  rw [getEntity_eq hid] at htype
  dsimp only at htype
  rw [finish_contentType] at htype
  -- Only an entity that is printed sets a content type
  cases hget : (self.api.getEntity id s).1 with
  | error e =>
    rw [hget] at htype
    exact absurd rfl htype
  | ok found =>
    cases found with
    | none =>
      rw [hget] at htype
      exact absurd rfl htype
    | some entity =>
      refine ⟨entity, rfl, ?_⟩
      cases hdump : self.json.dump (entityToJson entity) with
      | ok text => exact ⟨text, hdump, getEntity_found hid hget hdump⟩
      | error what =>
        -- Nothing was set, since the document could not be printed
        rw [hget] at htype
        simp only [lookupResult, toJson, hdump] at htype
        exact absurd rfl htype

/-- What `setEntity` leaves: the state, or that of a `SetEntity` of an entity whose id is the
    one in the path. -/
theorem setEntity_cases :
    (self.setEntity request s).2 = s ∨
    ∃ entity, extractId request.path = .ok entity.id ∧
      (self.setEntity request s).2 = (self.api.setEntity entity s).2 := by
  unfold setEntity setEntityRequest
  cases self.json.parse request.body >>= self.fromJson with
  | error what => exact .inl rfl
  | ok entity =>
    dsimp only
    cases hid : extractId request.path with
    | error e => exact .inl rfl
    | ok id =>
      dsimp only
      -- The ids have to agree before the core is called
      by_cases hne : entity.id ≠ id
      · rw [if_pos hne]
        exact .inl rfl
      · rw [if_neg hne]
        refine .inr ⟨entity, by rw [not_not.mp hne], ?_⟩
        cases self.api.setEntity entity s with
        | mk r t => cases r <;> rfl

end Requests

/-! ## Contents -/

/-- Every entity is under its own id. -/
def IsKeyed (data : EntityMap) : Prop :=
  ∀ (id : String) (entity : Entity), data[id]? = some entity → entity.id = id

/-- Storing an entity under its id keeps it so. -/
theorem IsKeyed.insert {data : EntityMap} (h : IsKeyed data) (entity : Entity) :
    IsKeyed (data.insert entity.id entity) := by
  intro id e he
  -- Under its own id there is the new entity, under any other id what was there
  rw [Std.ExtTreeMap.getElem?_insert] at he
  split at he
  · rename_i heq
    cases he
    exact Std.LawfulEqCmp.eq_of_compare heq
  · exact h id e he

variable {self : HttpHandler σ ν} {repo : EntityRepo σ} {contents : σ → EntityMap}

/-- A `GET` on a path that the route matches is handled by `getEntity`. -/
theorem handleRequest_get {path captured : String} (hroute : matchRoute path = some captured)
    (body : String) (s : σ × ν) :
    self.handleRequest .get ⟨path, body⟩ s = self.getEntity ⟨path, body⟩ s := by
  unfold handleRequest
  rw [hroute]

/-- A path without a route is not found. -/
theorem handleRequest_unknown {path : String} (hroute : matchRoute path = none)
    (method : HttpMethod) (body : String) (s : σ × ν) :
    self.handleRequest method ⟨path, body⟩ s = (⟨404, "", ""⟩, s) := by
  unfold handleRequest
  rw [hroute]

/-- What a request leaves in the repo. -/
theorem handleRequest_contents (hrepo : self.api.repo = some repo) (h : repo.Holds contents)
    (method : HttpMethod) (request : HttpRequest) (s : σ × ν) :
    contents (self.handleRequest method request s).2.1 = contents s.1 ∨
    ∃ entity, method = .put ∧ extractId request.path = .ok entity.id ∧
      contents (self.handleRequest method request s).2.1 =
        (contents s.1).insert entity.id entity := by
  obtain ⟨path, body⟩ := request
  cases hroute : matchRoute path with
  | none =>
    rw [handleRequest_unknown hroute]
    exact .inl rfl
  | some captured =>
    cases method with
    | get =>
      left
      -- A `GET` leaves the repo as the core does
      have hid : extractId (HttpRequest.mk path body).path = .ok (lastSegment captured) :=
        extractId_captured hroute
      rw [handleRequest_get hroute, getEntity_eq hid]
      exact (Core.getEntity_spec hrepo h _ s).1
    | put =>
      unfold handleRequest
      rw [hroute]
      dsimp only
      obtain hsame | ⟨entity, hid, hset⟩ := @setEntity_cases _ _ self ⟨path, body⟩ s
      · rw [hsame]
        exact .inl rfl
      · rw [hset]
        -- The core may have thrown before it stored
        obtain hkept | hstored := Core.setEntity_contents hrepo h entity s
        · exact .inl hkept
        · exact .inr ⟨entity, rfl, hid, hstored⟩

/-- Every entity is under its own id after any requests. -/
theorem after_isKeyed (hrepo : self.api.repo = some repo) (h : repo.Holds contents)
    (requests : List (HttpMethod × HttpRequest)) {s : σ × ν} (hs : IsKeyed (contents s.1)) :
    IsKeyed (contents (self.after requests s).1) := by
  induction requests generalizing s with
  | nil => exact hs
  | cons r requests ih =>
    refine ih (s := (self.handleRequest r.1 r.2 s).2) ?_
    obtain hsame | ⟨entity, -, -, hstored⟩ := handleRequest_contents hrepo h r.1 r.2 s
    · rw [hsame]
      exact hs
    · rw [hstored]
      exact hs.insert entity

/-! ## Paths and entities -/

/-- On a path the handler serves the entity whose id the route captured: this is the id that
    is looked up and compared, a `GET` answers with no other entity, at any moment of any
    run, and a `PUT` stores no other. -/
structure ServesCaptured (handler : HttpHandler σ ν) (contents : σ → EntityMap)
    (path captured : String) : Prop where
  extracted : extractId path = .ok captured
  get : ∀ body requests s₀, IsKeyed (contents s₀.1) →
    let r := handler.handleRequest .get ⟨path, body⟩ (handler.after requests s₀)
    r.1.contentType ≠ "" → ∃ entity, handler.Answers r.1 entity ∧ entity.id = captured
  put : ∀ body s, let r := handler.handleRequest .put ⟨path, body⟩ s
    contents r.2.1 = contents s.1 ∨
    ∃ entity, entity.id = captured ∧ contents r.2.1 = (contents s.1).insert captured entity

/-- Where the path names an id, the handler does what the core does with it. -/
structure ServesEntity (handler : HttpHandler σ ν) (contents : σ → EntityMap) (entity : Entity)
    (text : String) : Prop where
  /-- a `PUT` of the entity is a `SetEntity`, and stores it if that succeeds -/
  put : ∀ s, (handler.api.setEntity entity s).1 = .ok () →
    let r := handler.handleRequest .put ⟨"/Entity/" ++ entity.id, text⟩ s
    r.1.status = handler.converter.toHttp .ok ∧ r.2 = (handler.api.setEntity entity s).2 ∧
    (contents r.2.1)[entity.id]? = some entity
  /-- while it is stored, a `GET` that can read the repo answers with it -/
  get : ∀ body s, (contents s.1)[entity.id]? = some entity →
    (∃ found, (handler.api.getEntity entity.id s).1 = .ok found) →
    (handler.handleRequest .get ⟨"/Entity/" ++ entity.id, body⟩ s).1 =
      ⟨handler.converter.toHttp .ok, text, "application/json"⟩

/-- A path whose captured text has no slash is served as it is named. -/
theorem servesCaptured (hrepo : self.api.repo = some repo) (h : repo.Holds contents)
    {path captured : String} (hroute : matchRoute path = some captured)
    (hslash : '/' ∉ captured.toList) : self.ServesCaptured contents path captured := by
  have hid := (extractId_eq_captured hroute).mpr hslash
  refine ⟨hid, ?_, ?_⟩
  · intro body requests s₀ hs₀ r htype
    -- Whatever requests came before, what is held under the id has the id
    have hkeyed := after_isKeyed hrepo h requests hs₀
    have hid' : extractId (HttpRequest.mk path body).path = .ok captured := hid
    have hr : r = self.getEntity ⟨path, body⟩ (self.after requests s₀) := handleRequest_get hroute body _
    rw [hr] at htype ⊢
    obtain ⟨entity, hget, hanswers⟩ := getEntity_answers hid' htype
    have hheld := (Core.getEntity_spec hrepo h captured _).2.2 _ hget
    exact ⟨entity, hanswers, hkeyed captured entity hheld.symm⟩
  · intro body s r
    obtain hsame | ⟨entity, -, hext, hstored⟩ :=
      handleRequest_contents hrepo h .put ⟨path, body⟩ s
    · exact .inl hsame
    · -- The id of the body was compared with the one that is extracted
      have heq : entity.id = captured := Except.ok.inj (hext.symm.trans hid)
      rw [heq] at hstored
      exact .inr ⟨entity, heq, hstored⟩

/-- A `PUT` of an entity at a path that the route matches. -/
theorem handleRequest_put {entity : Entity} {text path captured : String}
    (hparse : self.json.parse text = .ok (entityToJson entity))
    (hroute : matchRoute path = some captured) (s : σ × ν) :
    self.handleRequest .put ⟨path, text⟩ s =
      if entity.id = lastSegment captured then
        (self.finish (self.requestHandler.process
          ((self.api.setEntity entity s).1.map fun _ => .ok)) {}, (self.api.setEntity entity s).2)
      else (self.finish (self.requestHandler.process
        (.error (.invalidArgument "inconsistent id"))) {}, s) := by
  -- The pattern that finds the id matches wherever the route does
  have hlast : matchLastSegment path = some (lastSegment captured) := by
    have hext := extractId_captured hroute
    unfold extractId at hext
    split at hext
    · exact nomatch hext
    · rename_i heq
      cases hext
      exact heq
  unfold handleRequest
  rw [hroute]
  dsimp only
  unfold setEntity
  rw [self.setEntityRequest_entity hparse, hlast]
  by_cases hid : entity.id = lastSegment captured
  · simp only [hid, ne_eq, not_true, if_false, if_true]
  · simp only [hid, ne_eq, not_false_eq_true, if_false, if_true]

/-- An entity whose id has no slash and no line end is served under its id. -/
theorem servesEntity (hrepo : self.api.repo = some repo) (h : repo.Holds contents)
    {entity : Entity} {text : String} (hdump : self.json.dump (entityToJson entity) = .ok text)
    (hparse : self.json.parse text = .ok (entityToJson entity))
    (hslash : '/' ∉ entity.id.toList) (hdot : entity.id.toList.all regexDot = true) :
    self.ServesEntity contents entity text := by
  have hroute : matchRoute ("/Entity/" ++ entity.id) = some entity.id :=
    matchRoute_eq_some.mpr ⟨rfl, hdot⟩
  constructor
  · intro s hok r
    have hr : r = _ := handleRequest_put hparse hroute s
    rw [lastSegment_eq_self.mpr hslash, if_pos rfl, hok] at hr
    rw [hr]
    refine ⟨finish_status _ _ _, rfl, ?_⟩
    dsimp only
    rw [Core.setEntity_stored hrepo h hok, Std.ExtTreeMap.getElem?_insert_self]
  · intro body s hheld ⟨found, hget⟩
    -- What the core returns is what the repo holds
    have hfound := (Core.getEntity_spec hrepo h entity.id s).2.2 found hget
    rw [hheld] at hfound
    rw [hfound] at hget
    have hid : extractId (HttpRequest.mk ("/Entity/" ++ entity.id) body).path = .ok entity.id :=
      (extractId_eq_captured hroute).mpr hslash
    rw [handleRequest_get hroute]
    exact getEntity_found hid hget hdump

/-- An entity that can be stored and is served under its id has neither in it. -/
theorem ServesEntity.plain {entity : Entity} {text : String}
    (h : self.ServesEntity contents entity text)
    (hparse : self.json.parse text = .ok (entityToJson entity))
    (hworks : ∃ s, (self.api.setEntity entity s).1 = .ok ()) :
    '/' ∉ entity.id.toList ∧ entity.id.toList.all regexDot = true := by
  obtain ⟨s, hok⟩ := hworks
  obtain ⟨hstatus, -⟩ := h.put s hok
  by_cases hdot : entity.id.toList.all regexDot = true
  · refine ⟨?_, hdot⟩
    rw [← lastSegment_eq_self]
    by_contra hne
    -- The body does not have the id that is taken from the path
    have hroute : matchRoute ("/Entity/" ++ entity.id) = some entity.id :=
      matchRoute_eq_some.mpr ⟨rfl, hdot⟩
    rw [handleRequest_put hparse hroute, if_neg (Ne.symm hne)] at hstatus
    exact self.converter.ne_ok (self.finish_invalidArgument "inconsistent id" {}) hstatus
  · -- The path has no route
    have hroute : matchRoute ("/Entity/" ++ entity.id) = none := by
      rw [matchRoute_entity, if_neg hdot]
    rw [handleRequest_unknown hroute] at hstatus
    exact absurd hstatus (self.converter.ne_ok self.converter.from_notFound)

/-- **Which ids a path can name.** For a core whose repo holds a map: on a path that the
    route matches, the id is what the route captured, a `GET` answers with no other entity
    and a `PUT` stores no other, exactly if the captured text has no slash. And an entity
    that the core can store is stored by a `PUT` of its document on its path, and a `GET`
    then answers with it, exactly if its id has no slash and no line end. -/
theorem path_id_iff (self : HttpHandler σ ν) (hrepo : self.api.repo = some repo)
    (h : repo.Holds contents) :
    (∀ path captured, matchRoute path = some captured →
      (self.ServesCaptured contents path captured ↔ '/' ∉ captured.toList)) ∧
    ∀ entity text, self.json.dump (entityToJson entity) = .ok text →
      self.json.parse text = .ok (entityToJson entity) →
      (∃ s, (self.api.setEntity entity s).1 = .ok ()) →
      (self.ServesEntity contents entity text ↔
        '/' ∉ entity.id.toList ∧ '\n' ∉ entity.id.toList ∧ '\r' ∉ entity.id.toList) := by
  constructor
  · -- A captured text is served exactly if it is extracted again
    intro path captured hroute
    constructor
    · intro hserves
      exact (extractId_eq_captured hroute).mp hserves.extracted
    · exact servesCaptured hrepo h hroute
  · intro entity text hdump hparse hworks
    rw [← all_regexDot]
    constructor
    · intro hserves
      exact hserves.plain hparse hworks
    · rintro ⟨hslash, hdot⟩
      exact servesEntity hrepo h hdump hparse hslash hdot

/-- A handler over a repo in memory, with a library for the document of one entity. -/
def testHandler (entity : Entity) (text : String) : HttpHandler EntityMap Unit :=
  ⟨Services.documentJson entity text, Services.testRequestHandler, Services.testConverter,
    ⟨some inMemoryRepo, none⟩⟩

/-- The entity of the usage examples is served on the path of the usage examples. -/
theorem path_id_iff_test :
    (testHandler exampleEntity exampleText).ServesCaptured id "/Entity/test" "test" ∧
    (testHandler exampleEntity exampleText).ServesEntity id exampleEntity exampleText := by
  have hiff := path_id_iff (testHandler exampleEntity exampleText) rfl inMemoryRepo_holds
  constructor
  · exact (hiff.1 "/Entity/test" "test" (by decide)).mpr (by decide)
  · have hworks : ∃ s, ((testHandler exampleEntity exampleText).api.setEntity exampleEntity s).1 =
        .ok () := ⟨(∅, ()), rfl⟩
    have hparse : (testHandler exampleEntity exampleText).json.parse exampleText =
        .ok (entityToJson exampleEntity) := rfl
    exact (hiff.2 exampleEntity exampleText (by decide) hparse hworks).mpr (by decide)

/-- The entity of the usage examples under another id. -/
def segmentEntity : Entity := ⟨"b", "str", 42⟩

/-- Its text. -/
def segmentText : String :=
  "\x7b\"id\":\"b\",\"int_property\":42,\"string_property\":\"str\"\x7d"

/-- A `PUT` of an entity on `/Entity/a/b`, into an empty repo. -/
def putSegments (entity : Entity) (text : String) : HttpResponse × (EntityMap × Unit) :=
  (testHandler entity text).handleRequest .put ⟨"/Entity/a/b", text⟩ (∅, ())

/-- The path that names `a/b` is that of the entity `b`: a `PUT` of it is stored there, a
    `GET` answers with it, and the entity `a/b` itself is rejected. -/
theorem path_with_slash :
    matchRoute "/Entity/a/b" = some "a/b" ∧ extractId "/Entity/a/b" = .ok "b" ∧
    (putSegments segmentEntity segmentText).1 = ⟨200, "", ""⟩ ∧
    (putSegments segmentEntity segmentText).2.1["b"]? = some segmentEntity ∧
    ((testHandler segmentEntity segmentText).handleRequest .get ⟨"/Entity/a/b", ""⟩
      (putSegments segmentEntity segmentText).2).1 =
        ⟨200, segmentText, "application/json"⟩ ∧
    (putSegments Services.slashEntity Services.slashText).1 = ⟨400, "inconsistent id", ""⟩ ∧
    (putSegments Services.slashEntity Services.slashText).2.1["a/b"]? = none := by
  refine ⟨?_, ?_, ?_, ?_, ?_, ?_, ?_⟩ <;> decide

end SapperBricks.HttpHandler
