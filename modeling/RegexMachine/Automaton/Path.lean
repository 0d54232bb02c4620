import RegexMachine.Automaton.Basic

namespace RegexMachine

/-- The statement `Path edges p w q` says that some walk along `edges` from `p` to `q` reads the
characters `w`, free moves reading nothing. -/
inductive Path (edges : List Edge) : Nat → List Char → Nat → Prop
  | refl (p : Nat) : Path edges p [] p
  | free {p q r : Nat} {w : List Char} :
      ⟨p, .epsilon, q⟩ ∈ edges → Path edges q w r → Path edges p w r
  | read {p q r : Nat} {c : Char} {w : List Char} :
      ⟨p, .char c, q⟩ ∈ edges → Path edges q w r → Path edges p (c :: w) r

namespace Path

variable {edges more : List Edge} {p q r : Nat} {v w : List Char}

theorem append (h : Path edges p v q) (k : Path edges q w r) : Path edges p (v ++ w) r := by
  induction h with
  | refl => exact k
  | free e _ ih => exact .free e (ih k)
  | read e _ ih => exact .read e (ih k)

theorem mono (hsub : edges ⊆ more) (h : Path edges p w q) : Path more p w q := by
  induction h with
  | refl => exact .refl _
  | free e _ ih => exact .free (hsub e) ih
  | read e _ ih => exact .read (hsub e) ih

end Path

/-- That `a` spells `w` on some way from its start to its accepting state. -/
def Automaton.Spells (a : Automaton) (w : List Char) : Prop := Path a.edges a.start w a.accept

end RegexMachine
