import SealedToken.Proofs.Opener
import SealedToken.Proofs.Text.Blank
import SealedToken.Proofs.Text.Split

/-! # Opening by command

A command that opens a token answers as the opener of its key does for the
text that the command was given, whichever way the text came. -/

namespace SealedToken

/-! ### Authorization values -/

namespace Authorization

theorem token_scheme_append {t : String} (h : ' ' ∉ t.toList) :
    token (scheme ++ " " ++ t) = .ok t := by
  have hscheme : ' ' ∉ scheme.toList := by decide
  have hvalue : (scheme ++ " " ++ t).toList = Split.join ' ' [scheme.toList, t.toList] := by
    rw [String.toList_append, String.toList_append, List.append_assoc]
    rfl
  have hparts : Split.parts ' ' (scheme ++ " " ++ t).toList = [scheme.toList, t.toList] := by
    rw [hvalue]
    exact Split.parts_join (List.cons_ne_nil _ _) (by simp [hscheme, h])
  simp only [token, hparts, if_true, String.ofList_toList]

/-- Blanks may stand around the value and around the token. -/
theorem map_trim_token {t before after : String} (hspace : ' ' ∉ t.toList)
    (hword : ∃ c ∈ t.toList, Blank.isBlank c = false) (hbefore : Blank.Blanks before.toList)
    (hafter : Blank.Blanks after.toList) :
    (token (Blank.trim (before ++ (scheme ++ " " ++ t) ++ after))).map Blank.trim =
      .ok (Blank.trim t) := by
  have hhead : ∀ c, (scheme ++ " ").toList.head? = some c → Blank.isBlank c = false := by
    intro c hc
    cases hc
    decide
  obtain ⟨front, back, hfront, -, ht, htrim⟩ :=
    Blank.exists_trim_append hhead (by decide) hword
  have hspace' : ' ' ∉ (front ++ Blank.trim t).toList := by
    intro h
    rw [ht, String.toList_append] at hspace
    exact hspace (List.mem_append_left _ h)
  have hnil : Blank.Blanks "".toList := List.forall_mem_nil _
  have hagain := Blank.trim_blanks_append hfront hnil (Blank.trim t)
  rw [String.append_empty, Blank.trim_trim] at hagain
  rw [Blank.trim_blanks_append hbefore hafter, htrim, token_scheme_append hspace']
  exact congrArg Except.ok hagain

end Authorization

/-! ### Answers -/

/-- What the opener answers, in the form that a mode prints. -/
def OpenMode.answer (m : OpenMode) (o : Opener) (lifetime : UInt32) (now : Int) (token : String) :
    Except Error String :=
  match m with
  | .text => (o.text token).result
  | .claims => (o.payload token).result.map Payload.jws
  | .verify ttl => (o.verified token (ttl.getD lifetime) now).result.map Claims.toJson

theorem Traced.result_bind_pure {α β : Type} (x : Traced α) (f : α → β) :
    (x >>= fun a => pure (f a)).result = x.result.map f := by
  rw [result_bind]
  cases x.result <;> rfl

/-- To report what was found changes nothing of it. -/
theorem Traced.result_bind_report {α : Type} (x : Traced α) (event : α → Event) :
    (x >>= fun a => report (event a) >>= fun _ => pure a).result = x.result := by
  rw [result_bind]
  cases x.result <;> rfl

namespace OpenCommand

theorem result_view (m : OpenMode) (o : Opener) (settings : Settings) (token : String)
    (now : Int) :
    (view m o settings token now).result = m.answer o settings.tokenLifetime now token := by
  cases m with
  | text => rfl
  | claims => exact Traced.result_bind_pure _ _
  | verify ttl => exact Traced.result_bind_pure _ _

theorem result_run (c : OpenCommand) (settings : Settings) (typed : Option String) (input : Bytes)
    (now : Int) :
    (c.run settings typed input now).result =
      c.key.key settings typed >>= fun key => c.readToken input >>= fun token =>
        c.mode.answer (.ofMaster key) settings.tokenLifetime now token := by
  rw [run, Traced.result_bind]
  refine congrArg _ (funext fun key => ?_)
  rw [Traced.result_bind]
  refine congrArg _ (funext fun token => ?_)
  rw [Traced.result_bind_report, result_view]

/-! ### Verification -/

/-- The command is to verify this signed token, which it opens. -/
structure Verifies (c : OpenCommand) (settings : Settings) (typed : Option String)
    (input : Bytes) (jws : String) : Prop where
  mode : ∃ ttl, c.mode = .verify ttl
  opens : ∃ key token, c.key.key settings typed = .ok key ∧ c.readToken input = .ok token ∧
    ((Opener.ofMaster key).payload token).result = .ok ⟨jws⟩

/-- A command that verifies prints the claims, and only if they are accepted. -/
theorem Verifies.exists_claims {c : OpenCommand} {settings : Settings} {typed : Option String}
    {input : Bytes} {jws output : String} {now : Int} (h : c.Verifies settings typed input jws)
    (hrun : (c.run settings typed input now).result = .ok output) :
    ∃ ttl claims, (Payload.verify ⟨jws⟩ ttl now).result = .ok claims ∧
      output = claims.toJson := by
  obtain ⟨⟨ttl, hmode⟩, key, token, hkey, hread, hpayload⟩ := h
  rw [result_run, hkey, hread, hmode] at hrun
  have hanswer : ((Opener.ofMaster key).verified token (ttl.getD settings.tokenLifetime)
      now).result.map Claims.toJson = .ok output := hrun
  rw [Opener.verified, Traced.result_bind, hpayload] at hanswer
  cases hverified : (Payload.verify ⟨jws⟩ (ttl.getD settings.tokenLifetime) now).result with
  | error e => exact absurd hanswer (by simp [hverified, bind, Except.bind, Except.map])
  | ok claims =>
    refine ⟨_, claims, hverified, ?_⟩
    simp only [bind, Except.bind, hverified, Except.map, Except.ok.injEq] at hanswer
    exact hanswer.symm

/-! ### Carriers -/

/-- The ways for a text to be given to a command. Standard input is read only
for a command that is given nothing else. -/
inductive Carries (t : String) (c : OpenCommand) : Bytes → Prop
  | input {before after : String} (hbefore : Blank.Blanks before.toList)
    (hafter : Blank.Blanks after.toList) (hauthorization : c.authorization = none)
    (htoken : c.token = none ∨ c.token = some "-") :
    Carries t c (Utf8.encode (before ++ t ++ after))
  | argument {before after : String} (input : Bytes) (hbefore : Blank.Blanks before.toList)
    (hafter : Blank.Blanks after.toList) (hauthorization : c.authorization = none)
    (htoken : c.token = some (before ++ t ++ after)) (hdash : t ≠ "-") : Carries t c input
  | authorization {before after : String} (input : Bytes) (hbefore : Blank.Blanks before.toList)
    (hafter : Blank.Blanks after.toList)
    (hauthorization : c.authorization = some (before ++ ("Bearer " ++ t) ++ after)) :
    Carries t c input

theorem readToken_input {c : OpenCommand} (before t after : String)
    (hbefore : Blank.Blanks before.toList) (hafter : Blank.Blanks after.toList)
    (hauthorization : c.authorization = none) (htoken : c.token = none ∨ c.token = some "-") :
    c.readToken (Utf8.encode (before ++ t ++ after)) = .ok (Blank.trim t) := by
  have hcarrier : c.carrier = .input := by
    rcases htoken with htoken | htoken
    · simp only [carrier, hauthorization, htoken]
    · simp only [carrier, hauthorization, htoken, if_true]
  have hread : readInput (Utf8.encode (before ++ t ++ after)) = .ok (before ++ t ++ after) := by
    simp only [readInput, Utf8.decode_eq_ok_iff.mpr rfl]
  simp only [readToken, hcarrier, hread]
  exact congrArg Except.ok (Blank.trim_blanks_append hbefore hafter t)

theorem readToken_of_carries {t : String} {c : OpenCommand} {input : Bytes}
    (hspace : ' ' ∉ t.toList) (hword : ∃ a ∈ t.toList, Blank.isBlank a = false)
    (h : Carries t c input) : c.readToken input = .ok (Blank.trim t) := by
  cases h with
  | input hbefore hafter hauthorization htoken =>
    exact readToken_input _ t _ hbefore hafter hauthorization htoken
  | @argument before after _ hbefore hafter hauthorization htoken hdash =>
    have hne : before ++ t ++ after ≠ "-" := by
      intro heq
      have hlist : before.toList ++ t.toList ++ after.toList = ['-'] := by
        rw [← String.toList_append, ← String.toList_append, heq]
        rfl
      -- The one character of the dash can only be in `t`.
      have hlength := congrArg List.length hlist
      have hpos : 0 < t.toList.length := by
        obtain ⟨a, ha, -⟩ := hword
        exact List.length_pos_of_mem ha
      simp only [List.length_append, List.length_singleton] at hlength
      have hfront : before.toList = [] := List.eq_nil_of_length_eq_zero (by omega)
      have hback : after.toList = [] := List.eq_nil_of_length_eq_zero (by omega)
      rw [hfront, hback, List.nil_append, List.append_nil] at hlist
      exact hdash (String.toList_injective hlist)
    have hcarrier : c.carrier = .argument (before ++ t ++ after) := by
      simp only [carrier, hauthorization, htoken, if_neg hne]
    simp only [readToken, hcarrier]
    exact congrArg Except.ok (Blank.trim_blanks_append hbefore hafter t)
  | @authorization before after _ hbefore hafter hauthorization =>
    have hcarrier : c.carrier = .authorization (before ++ ("Bearer " ++ t) ++ after) := by
      simp only [carrier, hauthorization]
    simp only [readToken, hcarrier]
    exact Authorization.map_trim_token hspace hword hbefore hafter

/-- Whichever way a text without spaces comes, the command answers as the
opener of its key does for the trimmed text. Standard input counts only for a
command that is given nothing else. -/
theorem run_carried (settings : Settings) (typed : Option String) (now : Int) :
    (∀ (c : OpenCommand) (key : MasterKey) (t : String) (input : Bytes),
      c.key.key settings typed = .ok key → ' ' ∉ t.toList →
        (∃ a ∈ t.toList, Blank.isBlank a = false) → Carries t c input →
          (c.run settings typed input now).result =
            c.mode.answer (.ofMaster key) settings.tokenLifetime now (Blank.trim t)) ∧
      ∀ c : OpenCommand,
        ((∃ value, c.authorization = some value) ∨
            ∃ token, c.token = some token ∧ token ≠ "-") →
          ∀ input input' : Bytes,
            c.run settings typed input now = c.run settings typed input' now := by
  constructor
  · intro c key t input hkey hspace hword hcarries
    rw [result_run, hkey, readToken_of_carries hspace hword hcarries]
    rfl
  · intro c hgiven input input'
    have hcarrier : c.carrier ≠ .input := by
      cases hauthorization : c.authorization with
      | some value => simp [carrier, hauthorization]
      | none =>
        rcases hgiven with ⟨value, hvalue⟩ | ⟨token, htoken, hdash⟩
        · rw [hauthorization] at hvalue
          cases hvalue
        · simp [carrier, hauthorization, htoken, hdash]
    have hread : c.readToken input = c.readToken input' := by
      unfold readToken
      cases hc : c.carrier with
      | authorization value => rfl
      | argument token => rfl
      | input => exact absurd hc hcarrier
    rw [run, run, hread]

/-- Asks for the signed token, under a key of zero bytes. -/
def claimsOfPlainToken : OpenCommand where
  authorization := some ("\t" ++ ("Bearer " ++ Opener.plainToken) ++ "\n")
  mode := .claims
  key := { hex := some "00000000000000000000000000000000" }

/-- Standard input, which is no text here, is not looked at. -/
theorem run_carried_authorization :
    (claimsOfPlainToken.run .default none [0xFF] 0).result = .ok "a" := by
  obtain ⟨hcarried, -⟩ := run_carried .default none 0
  have hkey : claimsOfPlainToken.key.key .default none = .ok ⟨List.replicate 16 0, rfl⟩ := rfl
  have hcarries : Carries Opener.plainToken claimsOfPlainToken [0xFF] :=
    .authorization _ (by decide) (by decide) rfl
  have htrim : Blank.trim Opener.plainToken = Opener.plainToken := by decide +kernel
  have hanswer := hcarried _ _ _ _ hkey (by decide) ⟨'e', by decide, rfl⟩ hcarries
  have hzero : Opener.ofMaster ⟨List.replicate 16 0, rfl⟩ = Opener.zero := rfl
  rw [hanswer, htrim, hzero]
  show (Opener.zero.payload Opener.plainToken).result.map Payload.jws = .ok "a"
  rw [Opener.payload_plainToken]
  rfl

end OpenCommand

end SealedToken
