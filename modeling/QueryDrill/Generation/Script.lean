import QueryDrill.Failure
import QueryDrill.Generation.Message
import QueryDrill.Json.Read
/-!
Scripted authors: they answer each conversation with the next reply of a script, and fail when there is
none left.

A run is a computation that may ask the author; what it asked is kept also if it fails.
-/

namespace QueryDrill

/-! ## 1. Scripts -/

/-- The replies that are left, the conversations so far, and why there is no answer once no reply is
left. -/
structure Script where
  replies : List String
  calls : List (List Message)
  silence : String
  deriving DecidableEq, Repr, Inhabited

namespace Script

/-- A script of which nothing has been used. -/
def ofReplies (replies : List String) : Script := ⟨replies, [], "mock oracle has no scripted reply left"⟩

/-- The script of a JSON text with a list of replies. -/
def ofText (text : String) : Except Failure Script :=
  match JsonReader.readAll JsonReader.texts text with
  | .ok replies => .ok (ofReplies replies)
  | .error fault => .error (.json (fault.message text))

/-- Adds a reply at the end. -/
def push (s : Script) (reply : String) : Script := { s with replies := s.replies ++ [reply] }

/-- The answer to a conversation, and the script after it. -/
def answer (s : Script) (conversation : List Message) : Except Failure String × Script :=
  let calls := s.calls ++ [conversation]
  match s.replies with
  | [] => (.error (.oracle s.silence), { s with calls })
  | reply :: rest => (.ok reply, { s with replies := rest, calls })

end Script

/-! ## 2. Runs -/

/-- A computation that may ask a scripted author. -/
abbrev Run (α : Type) := ExceptT Failure (StateM Script) α

/-- Asks the author. -/
def ask (conversation : List Message) : Run String := fun s => s.answer conversation

namespace Run

variable {α β : Type}

/-- What a run comes to with a script: its result, and the script after it. -/
def against (x : Run α) (s : Script) : Except Failure α × Script := x.run.run s

@[simp] theorem against_pure (a : α) (s : Script) : (pure a : Run α).against s = (.ok a, s) := rfl

@[simp] theorem against_throw (f : Failure) (s : Script) :
    (throw f : Run α).against s = (.error f, s) := rfl

@[simp] theorem against_ofExcept (r : Except Failure α) (s : Script) :
    (MonadExcept.ofExcept r : Run α).against s = (r, s) := by
  cases r <;> rfl

@[simp] theorem against_ask (conversation : List Message) (s : Script) :
    (ask conversation).against s = s.answer conversation := rfl

/-- A result without a failure is a value. -/
theorem exists_eq_ok_of_isOk {p : Except Failure α × Script} (h : p.1.isOk) :
    ∃ a, p = (.ok a, p.2) := by
  obtain ⟨_ | a, t⟩ := p
  · cases h
  · exact ⟨a, rfl⟩

/-- After a failure nothing runs. -/
theorem against_bind (x : Run α) (next : α → Run β) (s : Script) :
    (x >>= next).against s =
      match x.against s with
      | (.ok a, t) => (next a).against t
      | (.error f, t) => (.error f, t) := by
  change (ExceptT.bind x next) s = _
  unfold ExceptT.bind ExceptT.mk
  change (match x.against s with
    | (r, t) => (ExceptT.bindCont next r) t) = _
  rcases x.against s with ⟨_ | _, t⟩ <;> rfl

/-- A run in two parts fails with its first part, or goes on with the value of it. -/
theorem against_bind_cases {x : Run α} {next : α → Run β} {s t : Script} {r : Except Failure β}
    (h : (x >>= next).against s = (r, t)) :
    (∃ f, x.against s = (.error f, t) ∧ r = .error f) ∨
      ∃ a u, x.against s = (.ok a, u) ∧ (next a).against u = (r, t) := by
  rw [against_bind] at h
  rcases hx : x.against s with ⟨f | a, u⟩
  · rw [hx] at h
    obtain ⟨rfl, rfl⟩ := Prod.mk.inj h
    exact .inl ⟨f, rfl, rfl⟩
  · rw [hx] at h
    exact .inr ⟨a, u, rfl, h⟩

/-- A run that begins with a computed value asks nothing before it goes on. -/
theorem against_ofExcept_bind_cases {x : Except Failure α} {next : α → Run β} {s t : Script}
    {r : Except Failure β} (h : (MonadExcept.ofExcept x >>= next : Run β).against s = (r, t)) :
    (∃ f, x = .error f ∧ r = .error f ∧ t = s) ∨ ∃ a, x = .ok a ∧ (next a).against s = (r, t) := by
  rcases against_bind_cases h with ⟨f, hx, hr⟩ | ⟨a, u, hx, hnext⟩
  · rw [against_ofExcept] at hx
    obtain ⟨hvalue, rfl⟩ := Prod.mk.inj hx
    exact .inl ⟨f, hvalue, hr, rfl⟩
  · rw [against_ofExcept] at hx
    obtain ⟨hvalue, rfl⟩ := Prod.mk.inj hx
    exact .inr ⟨a, hvalue, hnext⟩

end Run

end QueryDrill
