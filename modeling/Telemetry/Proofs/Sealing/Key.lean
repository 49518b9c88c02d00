import Mathlib.FieldTheory.Finite.Basic
import Mathlib.NumberTheory.LucasLehmer
import Telemetry.Sealing.Envelope

/-!
# Pairs of keys

A private key opens what a public key seals when the modulus is a product of two different primes and the
two exponents undo each other. Then a power with the one exponent undoes a power with the other, for every
number below the modulus: for each of the two primes by Fermat's little theorem, and so for their product.
-/

namespace Telemetry

/-- The private key opens what the public key seals: they share the modulus, which has two different prime
factors, and the exponents undo each other for both factors. -/
structure PrivateKey.Opens (opening : PrivateKey) (sealing : PublicKey) : Prop where
  publicKey_eq : opening.publicKey = sealing
  factors : ∃ first second : Nat, first.Prime ∧ second.Prime ∧ first ≠ second ∧
    sealing.modulus = first * second ∧
    sealing.exponent * opening.exponent ≡ 1 [MOD first - 1] ∧
    sealing.exponent * opening.exponent ≡ 1 [MOD second - 1]

/-- A key whose modulus is the product of two Mersenne primes, with 81 bytes. -/
def PrivateKey.ofMersenne : PrivateKey where
  publicKey := ⟨(2 ^ 521 - 1) * (2 ^ 127 - 1), 65537⟩
  exponent := (10880 * ((2 ^ 521 - 2) * (2 ^ 127 - 2)) + 1) / 65537

theorem PrivateKey.opens_ofMersenne : ofMersenne.Opens ofMersenne.publicKey where
  publicKey_eq := rfl
  factors := by
    have first : (2 ^ 521 - 1).Prime := lucas_lehmer_sufficiency 521 (by simp) (by norm_num)
    have second : (2 ^ 127 - 1).Prime := lucas_lehmer_sufficiency 127 (by simp) (by norm_num)
    refine ⟨_, _, first, second, ?_, ?_, ?_, ?_⟩
    · decide +kernel
    · rfl
    · unfold Nat.ModEq
      decide +kernel
    · unfold Nat.ModEq
      decide +kernel

namespace Envelope

/-- Repeated squaring gives the power. -/
theorem power_eq (base exponent modulus : Nat) :
    power base exponent modulus = base ^ exponent % modulus := by
  induction base, exponent using power.induct modulus with
  | case1 base => rw [power, if_pos rfl, pow_zero]
  | case2 base exponent positive odd inductionHypothesis =>
    rw [power, if_neg positive]
    simp only [odd, if_true]
    have halves : exponent = 2 * (exponent / 2) + 1 := by omega
    calc power (base * base % modulus) (exponent / 2) modulus * base % modulus
        = (base * base) ^ (exponent / 2) * base % modulus := by
          rw [inductionHypothesis, ← Nat.pow_mod, Nat.mod_mul_mod]
      _ = base ^ (2 * (exponent / 2) + 1) % modulus := by rw [pow_succ, pow_mul, pow_two]
      _ = base ^ exponent % modulus := by rw [← halves]
  | case3 base exponent positive even inductionHypothesis =>
    rw [power, if_neg positive]
    simp only [even, if_false]
    have halves : exponent = 2 * (exponent / 2) := by omega
    calc power (base * base % modulus) (exponent / 2) modulus
        = (base * base) ^ (exponent / 2) % modulus := by
          rw [inductionHypothesis, ← Nat.pow_mod]
      _ = base ^ (2 * (exponent / 2)) % modulus := by rw [pow_mul, pow_two]
      _ = base ^ exponent % modulus := by rw [← halves]

/-- Zero undoes an exponent modulo one only. -/
theorem eq_two_of_zero_modEq_one {factor : Nat} (undoes : 0 ≡ 1 [MOD factor - 1]) : factor = 2 := by
  have divides : factor - 1 ∣ 1 := (Nat.modEq_iff_dvd' (Nat.zero_le 1)).1 undoes
  have small : factor - 1 = 1 := Nat.dvd_one.1 divides
  omega

/-- A positive power with an exponent that is one, modulo one less than a prime, changes nothing modulo the
prime. -/
theorem pow_modEq_self {factor exponent : Nat} (prime : factor.Prime) (positive : exponent ≠ 0)
    (undoes : exponent ≡ 1 [MOD factor - 1]) (value : Nat) : value ^ exponent ≡ value [MOD factor] := by
  by_cases divides : factor ∣ value
  · have powerDivides : factor ∣ value ^ exponent := dvd_pow divides positive
    exact ((Nat.modEq_zero_iff_dvd).2 powerDivides).trans ((Nat.modEq_zero_iff_dvd).2 divides).symm
  · have coprime : Nat.Coprime value factor := ((Nat.Prime.coprime_iff_not_dvd prime).2 divides).symm
    have fermat : value ^ (factor - 1) ≡ 1 [MOD factor] := by
      have := Nat.ModEq.pow_totient coprime
      rwa [Nat.totient_prime prime] at this
    obtain ⟨rounds, split⟩ : ∃ rounds, exponent = (factor - 1) * rounds + 1 := by
      have one_le : 1 ≤ exponent := Nat.one_le_iff_ne_zero.2 positive
      obtain ⟨rounds, difference⟩ := (Nat.modEq_iff_dvd' one_le).1 undoes.symm
      exact ⟨rounds, by omega⟩
    calc value ^ exponent
        = (value ^ (factor - 1)) ^ rounds * value := by rw [split, pow_succ, pow_mul]
      _ ≡ 1 ^ rounds * value [MOD factor] := (fermat.pow rounds).mul_right value
      _ = value := by rw [one_pow, one_mul]

/-- Opening a power undoes sealing it. -/
theorem power_power {opening : PrivateKey} {sealing : PublicKey} (pair : opening.Opens sealing)
    {value : Nat} (below : value < sealing.modulus) :
    power (power value sealing.exponent sealing.modulus) opening.exponent sealing.modulus = value := by
  obtain ⟨first, second, firstPrime, secondPrime, different, product, firstUndoes, secondUndoes⟩ :=
    pair.factors
  have positive : sealing.exponent * opening.exponent ≠ 0 := by
    intro zero
    rw [zero] at firstUndoes secondUndoes
    exact different ((eq_two_of_zero_modEq_one firstUndoes).trans
      (eq_two_of_zero_modEq_one secondUndoes).symm)
  have coprime : Nat.Coprime first second := (Nat.coprime_primes firstPrime secondPrime).2 different
  have unchanged : value ^ (sealing.exponent * opening.exponent) ≡ value [MOD first * second] :=
    (Nat.modEq_and_modEq_iff_modEq_mul coprime).1
      ⟨pow_modEq_self firstPrime positive firstUndoes value,
        pow_modEq_self secondPrime positive secondUndoes value⟩
  rw [power_eq, power_eq, ← Nat.pow_mod, ← pow_mul, product, unchanged]
  exact Nat.mod_eq_of_lt (product ▸ below)

end Envelope

end Telemetry
