/-
Bot accounts and the host their URL names.

`AnyHttpUrl` is the validated URL type: its text is normalised ASCII and always has a
host, so the `ValueError` of `host` is written down but never reached.
-/

import Pybotx.Errors

set_option autoImplicit false

namespace Pybotx

def netloc (url : List Char) : List Char :=
  match url.dropWhile (fun c => c ≠ ':') with
  | ':' :: '/' :: '/' :: rest => rest.takeWhile (fun c => c ≠ '/' ∧ c ≠ '?' ∧ c ≠ '#')
  | _ => []

def hostinfo (url : List Char) : List Char :=
  let info := (netloc url).rtakeWhile (fun c => c ≠ '@')
  match info.dropWhile (fun c => c ≠ '[') with
  | '[' :: bracketed => bracketed.takeWhile (fun c => c ≠ ']')
  | _ => info.takeWhile (fun c => c ≠ ':')

def hostname (url : String) : Option String :=
  let host := hostinfo url.toList
  if host = [] then none
  else some (String.ofList
    ((host.takeWhile (fun c => c ≠ '%')).map Char.toLower ++ host.dropWhile (fun c => c ≠ '%')))

theorem hostname_ne_empty (url host : String) (named : hostname url = some host) :
    host ≠ "" := by
  unfold hostname at named
  intro empty
  subst empty
  simp only at named
  split at named
  · cases named
  · rename_i nonempty
    have characters := congrArg String.toList (Option.some.inj named)
    rw [String.toList_ofList] at characters
    have parts := List.append_eq_nil_iff.mp characters
    have before := List.map_eq_nil_iff.mp parts.1
    exact nonempty (by
      rw [← List.takeWhile_append_dropWhile (p := fun c => decide (c ≠ '%'))
        (l := hostinfo url.toList), before, parts.2]
      rfl)

structure AnyHttpUrl where
  text : String
  hasHost : (hostname text).isSome = true
  deriving DecidableEq

structure BotAccountWithSecret where
  id : UUID
  ctsUrl : AnyHttpUrl
  secretKey : String
  deriving DecidableEq

namespace BotAccountWithSecret

def host (account : BotAccountWithSecret) : Result String :=
  match hostname account.ctsUrl.text with
  | none => .error (.valueError "Could not parse host from cts_url.")
  | some hostname => .ok hostname

/-- The host a validated URL is known to have. -/
def hostName (account : BotAccountWithSecret) : String :=
  (hostname account.ctsUrl.text).get account.ctsUrl.hasHost

theorem host_eq (account : BotAccountWithSecret) : account.host = .ok account.hostName := by
  unfold host hostName
  split
  · rename_i missing
    have present := account.ctsUrl.hasHost
    rw [missing] at present
    cases present
  · rename_i named
    simp only [named, Option.get_some]

theorem host_bind {α : Type} (account : BotAccountWithSecret) (next : String → Result α) :
    (account.host >>= next) = next account.hostName := by
  rw [host_eq]
  rfl

theorem hostName_ne_empty (account : BotAccountWithSecret) : account.hostName ≠ "" :=
  hostname_ne_empty account.ctsUrl.text account.hostName (by simp [hostName])

end BotAccountWithSecret

def demoAccount : BotAccountWithSecret :=
  { id := ⟨⟨0x2434824667914ac09d86b948cd6a0e46, by decide⟩⟩
    ctsUrl := ⟨"https://cts.example.com/", by decide⟩
    secretKey := "bee001" }

structure BotAccount where
  id : UUID
  host : Option String

end Pybotx
