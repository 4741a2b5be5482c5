import Mathlib.Data.List.Basic
import ModelDepot.Authority.Remote
import ModelDepot.Document
import ModelDepot.Proofs.Http.Spelling

/-!
The paths under which the grants of a resource are kept by an authority on the web. A path tells of its segments what is
left without tabs and line ends, and nothing at all of those that mean a place or the one above; the rest can be read
from it. Main statement: requests for two resources have the same path exactly if the same is told of both
(`resource_path_eq_iff`), so only names that are told as they are keep resources apart.
-/
namespace ModelDepot

namespace Http

/-! ### What a path tells of its segments -/

/-- The text without tabs and line ends. -/
def unbroken (s : String) : String := String.ofList (s.toList.filter fun c => c != '\t' && c != '\n' && c != '\r')

/-- What is told of segments. -/
def told (segments : List String) : List String := (segments.filter fun s => s != "." && s != "..").map unbroken

/-- All of the segment is told. -/
def Whole (s : String) : Prop := s ≠ "." ∧ s ≠ ".." ∧ ∀ c ∈ s.toList, c ≠ '\t' ∧ c ≠ '\n' ∧ c ≠ '\r'

theorem unbroken_of_whole {s : String} (whole : Whole s) : unbroken s = s := by
  have all : s.toList.filter (fun c => c != '\t' && c != '\n' && c != '\r') = s.toList :=
    List.filter_eq_self.mpr fun c member => by simpa [and_assoc] using whole.2.2 c member
  rw [unbroken, all, String.ofList_toList]

theorem told_of_whole {segments : List String} (whole : ∀ s ∈ segments, Whole s) : told segments = segments := by
  have kept : segments.filter (fun s => s != "." && s != "..") = segments :=
    List.filter_eq_self.mpr fun s member => by simpa using ⟨(whole s member).1, (whole s member).2.1⟩
  calc (segments.filter fun s => s != "." && s != "..").map unbroken
    _ = segments.map unbroken := by rw [kept]
    _ = segments.map id := List.map_congr_left fun s member => unbroken_of_whole (whole s member)
    _ = segments := List.map_id segments

/-! ### Reading a path -/

theorem kept_keptSegment (special : Bool) : Kept (keptSegment special) := by
  intro c keeps
  simp only [keptSegment, keptPath, keptFragment, isPlain, Bool.and_eq_true, decide_eq_true_eq, bne_iff_ne] at keeps
  exact ⟨keeps.1.1.1.1.1.1, keeps.1.2⟩

theorem slash_not_mem (special : Bool) (s : String) : '/' ∉ (percentEncode (keptSegment special) s).toList :=
  not_mem_percentEncode (by decide) (by decide) (by cases special <;> decide) s

theorem render_segments (segments : List String) :
    (Path.segments segments).render.toList = segments.flatMap fun s => '/' :: s.toList := by
  simp [Path.render, String.toList_join, List.flatMap_map]

/-- The segments behind the beginning of a path are read from it. -/
theorem splitOn_segments {segments : List String} (closed : ∀ s ∈ segments, '/' ∉ s.toList) (front : List Char) :
    (front ++ segments.flatMap fun s => '/' :: s.toList).splitOn '/' =
      front.splitOn '/' ++ segments.map String.toList := by
  induction segments generalizing front with
  | nil => simp
  | cons s more ih =>
    rw [List.forall_mem_cons] at closed
    rw [List.flatMap_cons, List.cons_append, List.splitOn_append_cons_self, ih closed.2,
      List.splitOn_eq_singleton closed.1, List.map_cons, List.singleton_append]

theorem extended_eq_told (special : Bool) (path segments : List String) :
    Url.extended special path segments =
      (if path.getLast? = some "" then path.dropLast else path) ++
        (told segments).map (percentEncode (keptSegment special)) := by
  rw [told, List.map_map]
  rfl

/-- Paths below one address are the same exactly if the same is told of their segments. -/
theorem render_extended_eq_iff (special : Bool) (path segments others : List String) :
    (Path.segments (Url.extended special path segments)).render =
      (Path.segments (Url.extended special path others)).render ↔ told segments = told others := by
  rw [extended_eq_told, extended_eq_told]
  constructor
  · intro same
    have encoded : Function.Injective (List.map (percentEncode (keptSegment special))) :=
      List.map_injective_iff.mpr fun _ _ => percentEncode_injective (kept_keptSegment special)
    have spelled : Function.Injective (List.map String.toList) :=
      List.map_injective_iff.mpr fun _ _ => String.toList_injective
    have closed (list : List String) : ∀ s ∈ list.map (percentEncode (keptSegment special)), '/' ∉ s.toList := by
      intro s member
      obtain ⟨t, -, rfl⟩ := List.mem_map.mp member
      exact slash_not_mem special t
    have cut := congrArg (fun path => path.toList.splitOn '/') same
    simp only [render_segments, List.flatMap_append, splitOn_segments (closed _), List.append_cancel_left_eq] at cut
    exact encoded (spelled cut)
  · exact fun same => by rw [same]

end Http

/-! ### Requests for one resource -/

/-- The topic and the id under which a call reads, writes or removes grants. -/
def AuthorityCall.managed? : AuthorityCall → Option (String × String)
  | .getResource topic id => some (topic, id)
  | .setPermission topic id _ => some (topic, id)
  | .removeResource topic id => some (topic, id)
  | _ => none

/-- The path to which a request is sent. -/
def Request.path (request : Request) : String := request.url.path.render

namespace RemoteAuthority
open Http
variable {a : RemoteAuthority} {address token topic id topic' id' : String} {call call' : AuthorityCall}

theorem segments_of_at (opened : RemoteAuthority.at address token = .ok a) :
    ∃ segments, a.base.path = .segments segments := by
  unfold RemoteAuthority.at at opened
  split at opened
  · cases opened
  rename_i base parsed
  split at opened
  · cases opened
  rename_i canBeBase
  obtain rfl := Except.ok.inj opened
  cases path : base.path with
  | segments list => exact ⟨list, rfl⟩
  | text shown => exact absurd (by simp [Url.cannotBeBase, path]) canBeBase

theorem request?_of_managed (a : RemoteAuthority) (about : call.managed? = some (topic, id)) :
    ∃ request, a.request? call = some request ∧ request.url = a.url ["manage", topic, id] := by
  cases call with
  | getResource t i | setPermission t i grants | removeResource t i =>
    obtain ⟨rfl, rfl⟩ := Prod.mk.inj (Option.some.inj about)
    exact ⟨_, rfl, rfl⟩
  | setTopic _ | check _ _ _ _ | checkMany _ _ _ _ | accessible _ _ _ _ | adminList _ _ => cases about

theorem render_url {base : List String} (based : a.base.path = .segments base) (segments : List String) :
    (a.url segments).path.render = (Path.segments (Url.extended (isSpecial a.base.scheme) base segments)).render := by
  simp only [url, Url.below?, based, Option.getD_some]

/-- Each of the calls for one resource sends a request, whatever the names of the resource. Requests for two resources
    go to the same path exactly if the same is told of their names; if all of them are told, the resources are the
    same. -/
theorem resource_path_eq_iff (opened : RemoteAuthority.at address token = .ok a)
    (about : call.managed? = some (topic, id)) (about' : call'.managed? = some (topic', id')) :
    ∃ request request', a.request? call = some request ∧ a.request? call' = some request' ∧
      (request.path = request'.path ↔ told [topic, id] = told [topic', id']) ∧
      ((∀ s ∈ [topic, id, topic', id'], Whole s) →
        (request.path = request'.path ↔ (topic, id) = (topic', id'))) := by
  obtain ⟨base, based⟩ := segments_of_at opened
  obtain ⟨request, sent, atUrl⟩ := request?_of_managed a about
  obtain ⟨request', sent', atUrl'⟩ := request?_of_managed a about'
  have manage (rest : List String) : told ("manage" :: rest) = "manage" :: told rest := rfl
  have paths : request.path = request'.path ↔ told [topic, id] = told [topic', id'] := by
    rw [Request.path, Request.path, atUrl, atUrl', render_url based, render_url based, render_extended_eq_iff, manage,
      manage, List.cons_inj_right]
  refine ⟨request, request', sent, sent', paths, fun whole => ?_⟩
  rw [paths, told_of_whole fun s member => whole s (List.mem_append_left [topic', id'] member),
    told_of_whole fun s member => whole s (List.mem_append_right [topic, id] member)]
  simp

/-- An authority at the second version of an address. -/
def second : RemoteAuthority := ⟨{ scheme := "http", site := some "[::1]:8080", path := .segments ["v2"] }, "t"⟩

theorem at_second : RemoteAuthority.at "http://[::1]:8080/v2" "t" = .ok second := by rfl

/-- Ids that need escapes are kept apart, also from the topic. -/
theorem resource_path_eq_iff_second :
    RemoteAuthority.at "http://[::1]:8080/v2" "t" = .ok second ∧ (∀ s ∈ ["models", "a/b", "models/a", "b"], Whole s) ∧
      ∃ request request', second.request? (.getResource "models" "a/b") = some request ∧
        second.request? (.removeResource "models/a" "b") = some request' ∧ request.path ≠ request'.path := by
  have whole : ∀ s ∈ ["models", "a/b", "models/a", "b"], Whole s := by simp [Whole]
  have read : AuthorityCall.managed? (.getResource "models" "a/b") = some ("models", "a/b") := rfl
  have removed : AuthorityCall.managed? (.removeResource "models/a" "b") = some ("models/a", "b") := rfl
  obtain ⟨request, request', sent, sent', -, paths⟩ := resource_path_eq_iff at_second read removed
  exact ⟨at_second, whole, request, request', sent, sent', fun same => absurd ((paths whole).mp same) (by decide)⟩

/-- The id of a document may hold a tab, and it may mean a place. A removal for an id with a tab is sent to where the
    grants of the id without the tab are read, and an id that means a place is not in the path at all. -/
theorem resources_share_path :
    RemoteAuthority.at "http://[::1]:8080/v2" "t" = .ok second ∧
      ["ab", "a\tb", ".", ".."].Nodup ∧
      (∀ id ∈ ["ab", "a\tb", ".", ".."], ({ id := id } : Document).validate = .ok ()) ∧
      (∃ request request', second.request? (.getResource "models" "ab") = some request ∧
        second.request? (.removeResource "models" "a\tb") = some request' ∧
        request.path = "/v2/manage/models/ab" ∧ request'.path = request.path) ∧
      ∃ request request', second.request? (.getResource "models" ".") = some request ∧
        second.request? (.getResource "models" "..") = some request' ∧
        request.path = "/v2/manage/models" ∧ request'.path = request.path :=
  ⟨at_second, by decide, by decide, ⟨_, _, rfl, rfl, by decide, by decide⟩, _, _, rfl, rfl, by decide, by decide⟩

end RemoteAuthority
end ModelDepot
