namespace SatFrontend.Kernel.Signal

-- The signals with their names and what is said of a process that one has ended.
def table : List (Nat × String × String) :=
  [(1, "HUP", "Hangup"), (2, "INT", "Interrupt"), (3, "QUIT", "Quit"),
    (4, "ILL", "Illegal instruction"), (5, "TRAP", "Trace/breakpoint trap"),
    (6, "ABRT", "Aborted"), (7, "BUS", "Bus error"), (8, "FPE", "Floating point exception"),
    (9, "KILL", "Killed"), (10, "USR1", "User defined signal 1"),
    (11, "SEGV", "Segmentation fault"), (12, "USR2", "User defined signal 2"),
    (13, "PIPE", "Broken pipe"), (14, "ALRM", "Alarm clock"), (15, "TERM", "Terminated"),
    (16, "STKFLT", "Stack fault"), (17, "CHLD", "Child exited"), (18, "CONT", "Continued"),
    (19, "STOP", "Stopped (signal)"), (20, "TSTP", "Stopped"),
    (21, "TTIN", "Stopped (tty input)"), (22, "TTOU", "Stopped (tty output)"),
    (23, "URG", "Urgent I/O condition"), (24, "XCPU", "CPU time limit exceeded"),
    (25, "XFSZ", "File size limit exceeded"), (26, "VTALRM", "Virtual timer expired"),
    (27, "PROF", "Profiling timer expired"), (28, "WINCH", "Window changed"),
    (29, "IO", "I/O possible"), (30, "PWR", "Power failure"), (31, "SYS", "Bad system call")]

def interrupt : Nat := 2
def quit : Nat := 3
def kill : Nat := 9
def brokenPipe : Nat := 13
def terminate : Nat := 15

-- No number of a signal is larger.
def last : Nat := 64

def name? (number : Nat) : Option String := (table.lookup number).map (·.1)

def description (number : Nat) : String :=
  match table.lookup number with
  | some (_, text) => text
  | none => s!"Unknown signal {number}"

-- Whether a process that does nothing about a signal is ended by it.
def ends (number : Nat) : Bool := !([0, 17, 18, 19, 20, 21, 22, 23, 28].contains number)

end SatFrontend.Kernel.Signal
