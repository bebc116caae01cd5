/-!
# Powers of whole numbers

A power of natural numbers or integers is the one that is evaluated by counting up, also where
powers in other algebras are in scope: what a module says does not depend on what is imported
beside it. Modules that write powers import this one.
-/

attribute [instance (high + 1), default_instance (high + 1)] instPowNat
