namespace BuildTags.Text

/-- Membership in the set whose borders are listed in rising order: each border at or below `n`
changes between outside and inside. -/
def within (n : Nat) : (inside : Bool) → List Nat → Bool
  | inside, [] => inside
  | inside, border :: borders => if n < border then inside else within n (!inside) borders

end BuildTags.Text
