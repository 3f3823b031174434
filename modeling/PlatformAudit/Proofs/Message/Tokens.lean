import PlatformAudit.Message.Header

/-!
# Tokens in a row

The token behind a token is one more, until ten bits are used up.  So the token that is taken after
some others tells their number, but for multiples of 1024.
-/

namespace PlatformAudit

namespace Header

/-- The token that is next when the given number of tokens has been taken. -/
def tokenAfter (token : UInt16) : Nat → UInt16
  | 0 => token
  | count + 1 => tokenAfter (nextToken token) count

@[simp] theorem tokenAfter_zero (token : UInt16) : tokenAfter token 0 = token := rfl

theorem tokenAfter_succ (token : UInt16) (count : Nat) :
    tokenAfter token (count + 1) = tokenAfter (nextToken token) count :=
  rfl

theorem tokenAfter_add (token : UInt16) (first second : Nat) :
    tokenAfter token (first + second) = tokenAfter (tokenAfter token first) second := by
  induction first generalizing token with
  | zero => rw [Nat.zero_add, tokenAfter_zero]
  | succ count induction => rw [Nat.add_right_comm, tokenAfter_succ, tokenAfter_succ, induction]

theorem toNat_and_maxToken (token : UInt16) : (token &&& maxToken).toNat = token.toNat % 1024 := by
  rw [UInt16.toNat_and]
  exact Nat.and_two_pow_sub_one_eq_mod token.toNat 10

theorem toNat_nextToken (token : UInt16) : (nextToken token).toNat = (token.toNat + 1) % 1024 := by
  have wraps : (token + 1).toNat = (token.toNat + 1) % 65536 := UInt16.toNat_add token 1
  rw [nextToken, toNat_and_maxToken, wraps]
  omega

/-- Tokens count what was taken before them. -/
theorem toNat_tokenAfter (token : UInt16) (count : Nat) :
    (tokenAfter token count).toNat % 1024 = (token.toNat + count) % 1024 := by
  induction count generalizing token with
  | zero => rfl
  | succ count induction =>
      have next := toNat_nextToken token
      rw [tokenAfter_succ, induction]
      omega

end Header

end PlatformAudit
