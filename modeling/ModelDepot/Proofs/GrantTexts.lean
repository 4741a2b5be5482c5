import ModelDepot.Authority.Remote
import ModelDepot.Proofs.Json.Printing

/-!
The grants on a resource as they are sent to an authority and read from it. Main statement: the body of a request that
sets grants is read as the same grants, and so is what is printed for grants that were read from any text
(`RemoteAuthority.grants_survive`).
-/
namespace ModelDepot
open Json

namespace Rights

/-- The members of rights. -/
def fields : List (RecordField Rights) := [
  .of .flag "read" (·.read) fun b r => { r with read := b },
  .of .flag "write" (·.write) fun b r => { r with write := b },
  .of .flag "execute" (·.execute) fun b r => { r with execute := b },
  .of .flag "administrate" (·.administrate) fun b r => { r with administrate := b }]

theorem restores (rights : Rights) : shape.Restores fields rights := by
  have flag {name get set} : Conveyed rights (.of .flag name get set) (set (get rights)) := conveyed_of .flag rights
  exact ⟨_, .cons flag (.cons flag (.cons flag (.cons flag .nil))), rfl⟩

def codec : Codec Rights := Shape.codec rfl (by unfold Shape.Distinct; decide) restores

end Rights

namespace Grants

/-- The members of grants. -/
def fields : List (RecordField Grants) := [
  .of Rights.codec.dict "user_permissions" (·.users) fun d g => { g with users := d },
  .of Rights.codec.dict "group_permissions" (·.groups) fun d g => { g with groups := d },
  .of Rights.codec.dict "role_permissions" (·.roles) fun d g => { g with roles := d }]

theorem restores (grants : Grants) : shape.Restores fields grants := by
  have table {name get set} : Conveyed grants (.of Rights.codec.dict name get set) (set (get grants)) :=
    conveyed_of Rights.codec.dict grants
  exact ⟨_, .cons table (.cons table (.cons table .nil)), rfl⟩

def codec : Codec Grants := Shape.codec rfl (by unfold Shape.Distinct; decide) restores

/-- Grants are read back as they were printed. -/
theorem parse_print (grants : Grants) : shape.parse (utf8 (shape.print grants)) = .ok grants := codec.parse_print grants

end Grants

namespace RemoteAuthority

theorem answer_getResource {status : Nat} {body : List UInt8} {grants : Grants} (success : isSuccess status)
    (parsed : Grants.shape.parse body = .ok grants) (topic id : String) :
    answer (.getResource topic id) ⟨status, some body⟩ = .ok (some grants) := by
  have found : status ≠ 404 := by
    rintro rfl
    revert success
    decide
  have parsed : Grants.shape.read.parse body = .ok grants := parsed
  simp only [answer, fetched, found, success, parsed]
  rfl

/-- The body that sets grants is read as these grants. Grants that were read from a text, whatever it holds, are the same
    after they are printed and read again, so they allow the same. -/
theorem grants_survive (a : RemoteAuthority) (topic id : String) :
    (∀ grants, ∃ request body, a.request? (.setPermission topic id grants) = some request ∧ request.body = some body ∧
      ∀ status, isSuccess status → answer (.getResource topic id) ⟨status, some (utf8 body)⟩ = .ok (some grants)) ∧
    ∀ text received, Grants.shape.parse text = .ok received →
      ∃ again, Grants.shape.parse (utf8 (Grants.shape.print received)) = .ok again ∧ again = received ∧
        ∀ user groups roles permission,
          again.allow user groups roles permission = received.allow user groups roles permission := by
  refine ⟨fun grants => ⟨_, _, rfl, rfl, fun status success => ?_⟩, fun text received _ => ?_⟩
  · exact answer_getResource success grants.parse_print topic id
  · exact ⟨received, received.parse_print, rfl, fun _ _ _ _ => rfl⟩

/-- A text may name a user twice, leave members out and hold unknown ones. -/
theorem grants_survive_repeated :
    let text := utf8 "\x7b\"user_permissions\":\x7b\"é\":\x7b\"read\":true\x7d,\"é\":\x7b\"write\":true\x7d\x7d,\"since\":1\x7d"
    let received : Grants := { users := .ofList [("é", ({ write := true } : Rights))] }
    let a : RemoteAuthority := ⟨{ scheme := "http", site := some "[::1]:8080", path := .segments [] }, "t"⟩
    Grants.shape.parse text = .ok received ∧ Grants.shape.parse (utf8 (Grants.shape.print received)) = .ok received ∧
      ∃ request body, a.request? (.setPermission "models" "a" received) = some request ∧ request.body = some body ∧
        isSuccess 200 ∧ answer (.getResource "models" "a") ⟨200, some (utf8 body)⟩ = .ok (some received) := by
  intro text received a
  have parsed : Grants.shape.parse text = .ok received := rfl
  obtain ⟨sent, again⟩ := grants_survive a "models" "a"
  obtain ⟨_, back, rfl, -⟩ := again text received parsed
  obtain ⟨request, body, asked, holds, answered⟩ := sent received
  exact ⟨parsed, back, request, body, asked, holds, rfl, answered 200 rfl⟩

end RemoteAuthority
end ModelDepot
