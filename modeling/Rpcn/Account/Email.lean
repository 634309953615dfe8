/-
  File:      Rpcn/Account/Email.lean
  Subject:   CANONICAL EMAIL ADDRESSES (strip_email): what the key of an address is, and when there is
             one.

  The key is made of the local part up to its first `+` and what stands between the first two `@`, in
  lower case. It is the result of two splits, indexed without a look at their lengths: the second one
  has an element exactly if the address has an `@`. `create_account` passes addresses that were
  parsed; `send_reset_token` passes what it was sent, from a connection that is not authenticated.
-/
import Mathlib.Data.List.Basic
import Rpcn.Account.Reset

namespace Rpcn.Account.Reset

open Lib

/-! ## 1. Lower case and splits -/

variable (c : Char)

theorem toNat_toLower :
    c.toLower.toNat = if 65 ≤ c.toNat ∧ c.toNat ≤ 90 then c.toNat + 32 else c.toNat := by
  have hA : 'A'.val.toNat = 65 := rfl
  have hZ : 'Z'.val.toNat = 90 := rfl
  have hdiff : ('a'.val - 'A'.val).toNat = 32 := rfl
  unfold Char.toLower
  simp only [ge_iff_le, UInt32.le_iff_toNat_le, hA, hZ, Char.toNat]
  split
  · rw [UInt32.toNat_add, hdiff]
    omega
  · rfl

theorem toLower_toLower : c.toLower.toLower = c.toLower := by
  refine Char.toNat_inj.mp ?_
  rw [toNat_toLower c.toLower, toNat_toLower c]
  split
  · rw [if_neg (by omega)]
  · rfl

theorem toLower_eq_iff {c d : Char} (hd : d.toNat < 65) : c.toLower = d ↔ c = d := by
  rw [← Char.toNat_inj, ← Char.toNat_inj, toNat_toLower]
  split
  · omega
  · rfl

def lower (cs : List Char) : List Char := cs.map Char.toLower

/-- What stands before the first `d`. -/
def before (d : Char) (cs : List Char) : List Char := cs.takeWhile fun c => c != d

/-- What stands behind the first `d`. -/
def behind (d : Char) (cs : List Char) : List Char := (cs.dropWhile fun c => c != d).drop 1

section Parts

variable {d : Char} {cs ds : List Char}

theorem notMem_before (d : Char) (cs : List Char) : d ∉ before d cs := by
  intro h
  have hne := List.all_eq_true.mp List.all_takeWhile d h
  simp at hne

theorem bne_of_notMem (h : d ∉ cs) : ∀ c ∈ cs, (c != d) = true := by
  intro c hc
  rw [bne_iff_ne]
  rintro rfl
  exact h hc

theorem before_append (h : d ∉ cs) : before d (cs ++ d :: ds) = cs := by
  rw [before, List.takeWhile_append_of_pos (bne_of_notMem h)]
  simp

theorem behind_append (h : d ∉ cs) : behind d (cs ++ d :: ds) = ds := by
  rw [behind, List.dropWhile_append_of_pos (bne_of_notMem h)]
  simp

theorem before_of_notMem (h : d ∉ cs) : before d cs = cs := by
  have hrest : before d (cs ++ []) = cs ++ before d [] :=
    List.takeWhile_append_of_pos (bne_of_notMem h)
  rwa [List.append_nil, before, before, List.takeWhile_nil, List.append_nil] at hrest

theorem before_behind (h : d ∈ cs) : cs = before d cs ++ d :: behind d cs := by
  obtain ⟨as, bs, rfl, hnot⟩ := List.eq_append_cons_of_mem h
  rw [before_append hnot, behind_append hnot]

theorem splitOn_of_mem (h : d ∈ cs) :
    cs.splitOn d = before d cs :: (behind d cs).splitOn d := by
  conv_lhs => rw [before_behind h]
  exact List.splitOn_append_cons_self_of_not_mem (notMem_before d cs) (behind d cs)

theorem splitOn_eq_cons (d : Char) (cs : List Char) :
    ∃ rest, cs.splitOn d = before d cs :: rest := by
  by_cases h : d ∈ cs
  · exact ⟨_, splitOn_of_mem h⟩
  · rw [List.splitOn_eq_singleton h, before_of_notMem h]
    exact ⟨[], rfl⟩

theorem mem_lower (hd : d.toNat < 65) : d ∈ lower cs ↔ d ∈ cs := by
  rw [lower, List.mem_map]
  constructor
  · rintro ⟨c, hc, he⟩
    rwa [(toLower_eq_iff hd).mp he] at hc
  · intro h
    exact ⟨d, h, (toLower_eq_iff hd).mpr rfl⟩

theorem lower_lower (cs : List Char) : lower (lower cs) = lower cs := by
  rw [lower, lower, List.map_map]
  exact List.map_congr_left fun c _ => toLower_toLower c

theorem before_lower (hd : d.toNat < 65) (cs : List Char) :
    before d (lower cs) = lower (before d cs) := by
  by_cases h : d ∈ cs
  · conv_lhs => rw [before_behind h]
    rw [lower, List.map_append, List.map_cons, (toLower_eq_iff hd).mpr rfl]
    exact before_append (mt (mem_lower hd).mp (notMem_before d cs))
  · rw [before_of_notMem h, before_of_notMem (mt (mem_lower hd).mp h)]

theorem behind_lower (hd : d.toNat < 65) (h : d ∈ cs) :
    behind d (lower cs) = lower (behind d cs) := by
  conv_lhs => rw [before_behind h]
  rw [lower, List.map_append, List.map_cons, (toLower_eq_iff hd).mpr rfl]
  exact behind_append (mt (mem_lower hd).mp (notMem_before d cs))

end Parts

/-! ## 2. The key -/

def account (email : String) : List Char := before '+' (before '@' email.toList)

def domain (email : String) : List Char := behind '@' email.toList

theorem stripEmail_eq (email : String) :
    stripEmail email =
      if '@' ∈ email.toList then
        some (.ofList (lower (account email) ++ '@' :: lower (before '@' (domain email))))
      else none := by
  have hat : ('@' : Char).toNat < 65 := by decide
  have hplus : ('+' : Char).toNat < 65 := by decide
  unfold stripEmail
  rw [← lower]
  by_cases h : '@' ∈ email.toList
  · obtain ⟨rest, hdomain⟩ := splitOn_eq_cons '@' (lower (behind '@' email.toList))
    obtain ⟨rest', haccount⟩ := splitOn_eq_cons '+' (lower (before '@' email.toList))
    rw [if_pos h, splitOn_of_mem ((mem_lower hat).mpr h), before_lower hat, behind_lower hat h,
      hdomain]
    dsimp only
    rw [haccount, before_lower hat, before_lower hplus]
    rfl
  · rw [if_neg h, List.splitOn_eq_singleton (mt (mem_lower hat).mp h)]

theorem stripEmail_ofList {name domain : List Char} (hat : '@' ∉ name) (hplus : '+' ∉ name)
    (hdomain : '@' ∉ domain) :
    stripEmail (.ofList (name ++ '@' :: domain)) =
      some (.ofList (lower name ++ '@' :: lower domain)) := by
  rw [stripEmail_eq, account, Reset.domain, String.toList_ofList, before_append hat,
    behind_append hat, before_of_notMem hplus, before_of_notMem hdomain, if_pos (by simp)]

variable {email : String}

theorem stripEmail_key {key : String} (h : stripEmail email = some key) :
    stripEmail key = some key := by
  have hat : ('@' : Char).toNat < 65 := by decide
  have hplus : ('+' : Char).toNat < 65 := by decide
  rw [stripEmail_eq] at h
  split at h
  · have hnoat : '@' ∉ lower (account email) := by
      rw [mem_lower hat]
      exact fun hm => notMem_before '@' email.toList (List.takeWhile_subset _ hm)
    have hnoplus : '+' ∉ lower (account email) := by
      rw [mem_lower hplus]
      exact notMem_before '+' _
    have hdomainat : '@' ∉ lower (before '@' (domain email)) := by
      rw [mem_lower hat]
      exact notMem_before '@' _
    cases h
    rw [stripEmail_ofList hnoat hnoplus hdomainat, lower_lower, lower_lower]
  · cases h

/-- **Two spellings of one address**, each with one `@`: they differ in case, or in the part of the
    local part from a `+` on. -/
structure Respelled (email email' : String) : Prop where
  one : email.toList.count '@' = 1
  one' : email'.toList.count '@' = 1
  account : lower (account email) = lower (account email')
  domain : lower (domain email) = lower (domain email')

theorem notMem_domain (h : email.toList.count '@' = 1) : '@' ∉ domain email := by
  have hmem : '@' ∈ email.toList := List.count_pos_iff.mp (by omega)
  rw [before_behind hmem, List.count_append, List.count_cons_self] at h
  rw [domain, ← List.count_eq_zero]
  omega

theorem Respelled.stripEmail_eq {email' : String} (h : Respelled email email') :
    stripEmail email' = stripEmail email := by
  have hmem : '@' ∈ email.toList := List.count_pos_iff.mp (by rw [h.one]; decide)
  have hmem' : '@' ∈ email'.toList := List.count_pos_iff.mp (by rw [h.one']; decide)
  rw [Reset.stripEmail_eq, Reset.stripEmail_eq, if_pos hmem, if_pos hmem',
    before_of_notMem (notMem_domain h.one), before_of_notMem (notMem_domain h.one'), h.account,
    h.domain]

/-! ## 3. Resets -/

/-- **The key of an address** is there exactly if the address has an `@`. For every string: `strip_email`
    returns, and `send_reset_token` does not panic, exactly under that condition; a key is its own
    key; and all spellings of an address have one key, so that a reset request with any of them
    finds the account made with any other. -/
theorem strip_email_canonical (email : String) :
    ((stripEmail email).isSome = true ↔ '@' ∈ email.toList) ∧
    (∀ key, stripEmail email = some key → stripEmail key = some key) ∧
    (∀ email', Respelled email email' → stripEmail email' = stripEmail email ∧
      ∀ (row : ResetRow) (d : Draw), stripEmail email = some row.emailCheck →
        SendResetTokenRequest.step d row ⟨row.username, email'⟩ .check =
          some (none, row, .send ⟨row.username, email'⟩ .time)) ∧
    ∀ (row : ResetRow) (d : Draw) (username : String),
      SendResetTokenRequest.step d row ⟨username, email⟩ .check =
          some (none, row, .send ⟨username, email⟩ .panicked) ↔
        '@' ∉ email.toList := by
  have hsome : (stripEmail email).isSome = true ↔ '@' ∈ email.toList := by
    rw [stripEmail_eq]
    split
    · rename_i h
      simp [h]
    · rename_i h
      simp [h]
  refine ⟨hsome, fun key h => stripEmail_key h, ?_, ?_⟩
  · intro email' h
    refine ⟨h.stripEmail_eq, ?_⟩
    intro row d hrow
    rw [← h.stripEmail_eq] at hrow
    simp only [SendResetTokenRequest.step, hrow, ResetRow.checkEmail]
    simp
  · intro row d username
    rw [← hsome]
    cases hstrip : stripEmail email with
    | none => simp [SendResetTokenRequest.step, hstrip]
    | some key =>
      simp only [SendResetTokenRequest.step, hstrip]
      split <;> simp

theorem strip_email_canonical_suffix :
    stripEmail "ada@example.org" = stripEmail "Ada+news@Example.org" :=
  ((strip_email_canonical "Ada+news@Example.org").2.2.1 "ada@example.org"
    ⟨by decide +kernel, by decide +kernel, by decide +kernel, by decide +kernel⟩).1

/-- **An address without an `@`** panics: anybody may send it, with any user name. -/
theorem reset_panics :
    ((System.execute (Server.serve ⟨true, fun _ _ => []⟩)
        ⟨⟨"ada", [], [], "ada@example.org", none, none⟩, []⟩
        [.sendResetToken ⟨"ada", "ada"⟩, .next 0 ⟨"", [], 0, true⟩]).map fun r => r.2.tasks) =
      some [.send ⟨"ada", "ada"⟩ .panicked] := by
  decide +kernel

end Rpcn.Account.Reset
