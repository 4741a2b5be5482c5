import ModelDepot.Proofs.Http.ResourcePaths

/-!
Questions about several resources in one request. The ids are one value of its query, with commas between them, and
commas within them are not told apart from these. Main statement: two lists of ids are asked about by the same request
exactly if the same parts are between their commas; an authority reads these parts, which are the ids only where no id
has a comma (`batch_request_eq_iff`).
-/
namespace ModelDepot

/-! ### Parts between commas -/

/-- The parts of texts that stand between commas. -/
def pieces (texts : List String) : List String :=
  texts.flatMap fun text => (Text.splitChars ',' text.toList).map String.ofList

theorem pieces_eq (texts : List String) :
    pieces texts = ((texts.map String.toList).flatMap (Text.splitChars ',')).map String.ofList := by
  rw [pieces, List.flatMap_map, List.map_flatMap]

theorem pieces_intercalate {texts : List String} (there : texts ≠ []) :
    pieces [",".intercalate texts] = pieces texts := by
  rw [pieces_eq, pieces_eq, List.map_singleton, List.flatMap_singleton, String.toList_intercalate,
    show ",".toList = [','] from rfl, Text.splitChars_intercalate (by simpa using there)]

theorem intercalate_pieces_singleton (text : String) : ",".intercalate (pieces [text]) = text := by
  have parts : (pieces [text]).map String.toList = text.toList.splitOn ',' := by
    simp [pieces, Text.splitChars_eq, List.map_map, Function.comp_def]
  rw [← String.toList_inj, String.toList_intercalate, parts]
  exact List.intercalate_splitOn ','

theorem intercalate_eq_iff {texts others : List String} (there : texts ≠ []) (there' : others ≠ []) :
    ",".intercalate texts = ",".intercalate others ↔ pieces texts = pieces others := by
  rw [← pieces_intercalate there, ← pieces_intercalate there']
  refine ⟨fun same => by rw [same], fun same => ?_⟩
  have joined := congrArg (",".intercalate ·) same
  simpa only [intercalate_pieces_singleton] using joined

/-- The parts are the texts only if these have no comma. -/
theorem pieces_eq_self_iff {texts : List String} : pieces texts = texts ↔ ∀ text ∈ texts, ',' ∉ text.toList := by
  constructor
  · intro same text member
    rw [← same] at member
    obtain ⟨whole, -, member⟩ := List.mem_flatMap.mp member
    obtain ⟨part, cut, rfl⟩ := List.mem_map.mp member
    rw [String.toList_ofList]
    exact Text.not_mem_of_mem_splitChars cut
  · intro closed
    induction texts with
    | nil => rfl
    | cons text more ih =>
      rw [List.forall_mem_cons] at closed
      rw [pieces, List.flatMap_cons, Text.splitChars_eq, List.splitOn_eq_singleton closed.1, List.map_singleton,
        String.ofList_toList, List.singleton_append]
      exact congrArg _ (ih closed.2)

/-! ### Requests for several resources -/

/-- The ids that are read from a request: what is between commas in the last value under their name. -/
def Request.idsNamed (request : Request) : List String :=
  pieces ((Http.readForm (request.url.query.getD "")).reverse.lookup "ids").toList

namespace RemoteAuthority
open Http

/-- The pairs of a question about several resources. -/
def idPairs (ids : List String) (permission : Permission) : List (String × String) :=
  [("ids", ",".intercalate ids), ("permissions", permission.code)]

variable (a : RemoteAuthority) (caller : Caller) (topic : String) (permission : Permission) {ids ids' : List String}

theorem request?_checkMany (asked : ids ≠ []) :
    a.request? (.checkMany caller topic ids permission) =
      some ⟨.get, (a.url ["check", topic]).withPairs (idPairs ids permission), caller.token, none⟩ := by
  rw [request?, if_neg (by simpa using asked)]
  rfl

variable {a caller topic permission} in
theorem idsNamed_of_checkMany {request : Request} (asked : ids ≠ [])
    (sent : a.request? (.checkMany caller topic ids permission) = some request) : request.idsNamed = pieces ids := by
  rw [request?_checkMany a caller topic permission asked] at sent
  obtain rfl := Option.some.inj sent
  obtain ⟨before, reads⟩ := readForm_withPairs (a.url ["check", topic])
  have pairs : idPairs ids permission ≠ [] := List.cons_ne_nil _ _
  rw [Request.idsNamed, reads _ pairs, ← pieces_intercalate asked, List.reverse_append]
  rfl

/-- Requests about two lists of ids are the same exactly if the same parts are between the commas of both. These parts
    are what is read from a request, and they are the ids only if no id has a comma. -/
theorem batch_request_eq_iff (asked : ids ≠ []) (asked' : ids' ≠ []) :
    ∃ request request', a.request? (.checkMany caller topic ids permission) = some request ∧
      a.request? (.checkMany caller topic ids' permission) = some request' ∧
      (request = request' ↔ pieces ids = pieces ids') ∧
      request.idsNamed = pieces ids ∧ (request.idsNamed = ids ↔ ∀ id ∈ ids, ',' ∉ id.toList) := by
  have sent := request?_checkMany a caller topic permission asked
  have sent' := request?_checkMany a caller topic permission asked'
  have named := idsNamed_of_checkMany asked sent
  refine ⟨_, _, sent, sent', ⟨fun same => ?_, fun same => ?_⟩, named, ?_⟩
  · rw [← named, same, idsNamed_of_checkMany asked' sent']
  · rw [idPairs, idPairs, (intercalate_eq_iff asked asked').mpr same]
  · rw [named, pieces_eq_self_iff]

/-- Ids that need escapes are read as they are. -/
theorem batch_request_eq_iff_escaped :
    ["a b", "é&ids=c", "a%2Cb"] ≠ [] ∧ ∃ request,
      second.request? (.checkMany { user := "u" } "models" ["a b", "é&ids=c", "a%2Cb"] .read) = some request ∧
        request.idsNamed = ["a b", "é&ids=c", "a%2Cb"] := by
  have asked : ["a b", "é&ids=c", "a%2Cb"] ≠ [] := List.cons_ne_nil _ _
  obtain ⟨request, -, sent, -, -, -, exact⟩ :=
    batch_request_eq_iff second { user := "u" } "models" .read asked asked
  exact ⟨asked, request, sent, exact.mpr (by decide)⟩

/-- Documents may have ids with commas. One of them is asked about as two others are. -/
theorem batches_share_request :
    ["a,b"] ≠ ["a", "b"] ∧ (∀ id ∈ ["a,b", "a", "b"], ({ id := id } : Document).validate = .ok ()) ∧
      ∃ request, second.request? (.checkMany { user := "u" } "models" ["a,b"] .read) = some request ∧
        second.request? (.checkMany { user := "u" } "models" ["a", "b"] .read) = some request ∧
        request.url.target = "/v2/check/models?ids=a%2Cb&permissions=r" :=
  ⟨by decide, by decide, _, rfl, rfl, by decide⟩

end RemoteAuthority
end ModelDepot
