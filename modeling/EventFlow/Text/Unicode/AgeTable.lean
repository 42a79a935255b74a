/-!
# The table of ages

The versions of the standard in which characters came into it, as runs over all
code points in ascending order: the letter of a version and, in hexadecimal, how
many code points in a row came with it.
-/

namespace EventFlow.Text.Unicode

/-- The versions of the standard in ascending order, with their letters. -/
def versions : List (String × Char) :=
  [("1.1", 'A'), ("2.0", 'B'), ("2.1", 'C'), ("3.0", 'D'), ("3.1", 'E'), ("3.2", 'F'),
    ("4.0", 'G'), ("4.1", 'H'), ("5.0", 'I'), ("5.1", 'J'), ("5.2", 'K'), ("6.0", 'L'),
    ("6.1", 'M'), ("6.2", 'N'), ("6.3", 'O'), ("7.0", 'P'), ("8.0", 'Q'), ("9.0", 'R'),
    ("10.0", 'S'), ("11.0", 'T'), ("12.0", 'U'), ("12.1", 'V'), ("13.0", 'W'), ("14.0", 'X'),
    ("15.0", 'Y'), ("15.1", 'Z'), ("16.0", '*')]

/-- The runs of equal age; a hyphen stands for code points that are not in use. -/
def ageRuns : List String :=
  ["A1f6 D4 A1e D8 F1 G1 D12 G3 Hb Ie A59 D5 G2 A2f D1 Aa D5 G11 A46 D9 F1 G8 H5 G3 A2 D1 Fd J4",
   "A2 J2 -2 A1 I3 A1 P1 -4 A7 -1 A1 -1 A14 -1 A2c J1 A7 D1 F2 A1 D1 A1 D1 A1 D1 A1 D1 A12 E2",
   "F1 G5 H4 D1 Ac D1 A42 D1 Ac D1 A29 J1 D2 F2 D4 A35 F2 A2 F2 A2 F2 I1 A1c D2 A8 H2 A2 I6 F10",
   "I4 J10 K2 L2 P8 -1 A26 -2 A7 T1 A27 T1 A1 D1 -2 P2 M1 -1 B11 H1 Bd Aa I1 A9 B1 H3 -8 A1b -4",
   "T1 A5 -b G4 M1 P1 J5 H1 A1 G9 J5 A1 O1 X1 H1 A1 L1 A1a J5 A13 D3 G3 H6 L1 Ae F2 A48 D2 A5",
   "D1 Af D1 A1e G2 Aa D5 G1 De -1 D1e G3 D1b -2 G3 H1e J12 D31 F1 -e I3b -2 T3 K2e -2 Kf -1",
   "L1c -2 L1 -1 Sb -5 X1f -1 X2 -5 *1 X8 M1 P1 Mb P6 Q2 X1 R8 Wa Xb T1 Rf Q1 M1b P1 K1 A3 G1",
   "A35 L2 A12 K1 L1 A5 K1 L2 A19 J2 L5 P1 K2 I2 H1 I2 P1 A3 -1 A8 -2 A2 -2 A16 -1 A7 -1 A1 -3",
   "A4 -2 A1 G1 A7 -2 A2 -2 A3 H1 -8 A1 -4 A2 -1 A5 -2 A15 K1 S2 T1 -2 G1 A1 G1 -1 A6 -4 A2 -2",
   "A16 -1 A7 -1 A2 -1 A2 -1 A2 -2 A1 -1 A5 -4 A2 -2 A3 -3 J1 -7 A4 -1 A1 -7 Af J1 T1 -a A3 -1",
   "A7 G1 A1 -1 A3 -1 A16 -1 A7 -1 A2 -1 A5 -2 Aa -1 A3 -1 A3 -2 A1 -f A1 G3 -2 Aa M1 G1 -7 Q1",
   "S6 -1 A3 -1 A8 -2 A2 -2 A16 -1 A7 -1 A2 -1 G1 A4 -2 A8 J1 -2 A2 -2 A3 -7 W1 A2 -4 A2 -1 A3",
   "J2 -2 Ab G1 L6 -a A2 -1 A6 -3 A3 -1 A4 -3 A2 -1 A1 -1 A2 -3 A2 -3 A3 -3 A8 H1 A3 -4 A5 -3",
   "A3 -1 A4 -2 J1 -6 A1 -e H1 Ac G8 -5 P1 A3 T1 A8 -1 A3 -1 A17 -1 Aa P1 A5 -2 X1 J1 A7 -1 A3",
   "-1 A4 -7 A2 -1 J2 Q1 -2 X1 -2 A2 J2 -2 Aa -7 U1 J8 R1 P1 A2 T1 A8 -1 A3 -1 A17 -1 Aa -1 A5",
   "-2 G2 A7 -1 A3 -1 A4 -7 A2 -6 X1 A1 -1 A2 I2 -2 Aa -1 I2 Y1 -c S1 P1 A2 W1 A8 -1 A3 -1 A17",
   "L1 A10 L1 S2 J1 A6 J1 -1 A3 -1 A4 L1 R1 -4 R3 A1 R7 Q1 A2 J2 -2 Aa J6 R3 J7 -1 W1 D2 -1 D12",
   "-3 D18 -1 D9 -1 D1 -2 D7 -3 D1 -4 D6 -1 D1 -1 D8 -6 Pa -2 D3 -c A3a -4 A1d -25 A2 -1 A1 -1",
   "U1 A2 U1 A1 -1 U1 A1 U6 A4 U1 A7 U1 A3 -1 A1 -1 A1 U2 A2 U1 Ad U1 A3 -2 A5 -1 A1 -1 A6 Y1",
   "-1 Aa -2 A2 M2 -20 B48 -1 B21 D1 J2 -4 B1b L4 B6 D1 B1 -1 B15 D3 B7 D1 B1 D3 -1 Df -1 J1 D1",
   "H2 J3 K4 L2 -25 D22 J1 D5 J1 D2 J1 D7 J3 D4 J6 D1a J40 K4 J2 A26 -1 M1 -5 M1 -2 A27 F2 H2",
   "A1 H1 M3 A5a K5 A44 K5 A52 K6 D7 H1 D3f H1 D1 -1 D4 -2 D7 -1 D1 -1 D4 -2 D27 H1 D1 -1 D4 -2",
   "D1f H1 D1 -1 D4 -2 D7 -1 D1 -1 D4 -2 D7 H1 D7 -1 D17 H1 D1f H1 D1 -1 D4 -2 D7 H1 D27 H1 D13",
   "-2 L2 H2 D1c -3 H1a -6 D55 Q1 -2 Q6 -2 K1 D276 K9 D1d -3 D51 P8 -7 Fd X1 F7 X1 -9 X1 F17 -9",
   "F14 -c Fd -1 F3 -1 F2 -c D5d G1 -2 Da -6 Ga -6 Df X1 Da -6 D58 T1 -7 D2a J1 -5 K46 -a G1d",
   "P2 -1 Gc -4 Gc -4 G1 -3 G2a -2 G5 -b H2a K2 -4 H1a -6 Ha K1 -3 H2 G20 H1c -2 H2 K3f -1 K1d",
   "-2 Kb -6 Ka -6 Ke -2 Pf W2 Xe -31 I4c X1 -1 *2 I2d X2 *1 J2b M3 Jc M6 L34 -8 L4 J38 -3 Jf",
   "-3 J33 R9 *2 -5 T2b -2 T3 M8 -8 K23 M4 S1 P2 U1 -5 G6c H58 I7 J1c Pf S4 X1 R1 L1 K1 I2 A9b",
   "B1 J4 A5a J6 A16 -2 A6 -2 A26 -2 A6 -2 A8 -1 A1 -1 A1 -1 A1 -1 A1f -2 A35 -1 Af -1 Ae -2 A6",
   "-1 A13 -2 A3 -1 A9 -1 A2f D1 A17 F1 D6 F5 G2 H2 F1 H7 F5 J1 -1 O4 A7 F1 -2 A1b -1 H5 L8 -3",
   "Ab B1 C1 D3 F2 H4 K3 L1 N1 P3 Q1 S1 X1 -f A12 D2 F7 H1 I4 J1 -f A39 D2 G1 H1 Ff H1 I2 J1 K3",
   "A30 D1 I1 J4 K1 Q2 -4 A5b D9 Fc Af2 Fe A1 D1 A79 D1 F1 D1e F34 G2 Hb Ic K1 Lb P7 R4 S1 A25",
   "D2 *3 -16 Ab -15 A8b F14 G1 A96 Fa A50 D8 F8 A14 G2 F2 H1 D1 A56 D2 Fc H2 Fa G8 Hb J1 K2 G2",
   "H10 I1 Ja K3 J4 Ka L1 K13 L1 K1 L4 K18 P1 A4 L1 A4 L2 A1c L1 A23 L1 A1 L1 A4 L3 A1 K1 A7 L2",
   "A7 Fe A1f L3 A18 L1 Ae L1 H7 I4 M1 J1 M1 L2 F1c J4 F10 D100 F200 Ge H6 I7 J5 I4 J29 P3 J5",
   "K5 P1a -2 P20 -1 W1 P22 T3 Pc U1 P8 S1 T19 Q4 Tf U1 H2f X1 H2f X1 Id J3 K1 J3 I4 J6 K2 H6b",
   "K7 M2 -5 H2d -1 M1 -5 M1 -2 H36 M2 -7 H1 L1 -e L1 H17 -9 H7 -1 H7 -1 H7 -1 H7 -1 H7 -1 H7",
   "-1 H7 -1 H7 -1 J20 H18 J4 H2 J13 K1 Ma P7 R2 S5 T5 U1 W3 Xb -22 D1a -1 D59 -c Dd6 -1a Dc Z4",
   "A38 D3 F3 D1 A1 -1 A54 F2 -2 A6 F2 A5e F1 -5 A28 J1 S1 T1 -1 A5e -1 A10 D18 L3 W5 H10 J14",
   "*2 -9 Z1 F10 A1d G2 -1 A24 Kc G1 Ff A1c G2 H1 A32 Ff Ac G4 A2f V1 A77 G4 A63 G2 A1f G1",
   "D19b6 Wa G40 A51a6 H16 J8 K8 M1 Q9 S15 T5 Wd X3 D48d -3 D12 F2 D10 F1 Dc F1 D3 F1 D1 -9 K30",
   "J12c -14 J20 L2 J12 M8 J1c P6 Q1 M1 K58 -8 H17 I4 J5 I2 J6b L2 Q1 L2 M2 Pc La M1 P3 R1 T1",
   "P2 Q6 T2 U6 X2 U5 W4 *3 -2 X2 -1 X1 -1 X5 *3 -15 X3 W2 P1 M2 L1 J5 H2c W1 -3 Ka -6 I38 -8",
   "J45 R1 -8 Jc -6 K1c Q2 T2 J54 -b J1 K1d -3 K4e -1 Kb -4 K2 P1f -1 J37 -9 Je -2 Ja -2 J4 K1c",
   "P4 K43 -18 K5 M17 -a L6 -2 L6 -2 L6 -9 L7 -1 L7 -1 P30 Q4 P2 U2 W4 -4 Q50 K2e -2 Ka -6",
   "B2ba4 -c K17 -4 K31 -804 A1a2e M2 F3b K3 -2 H6a -26 A7 -c A5 -5 D1 A19 -1 A5 -1 A1 -1 A2 -1",
   "A2 -1 A6c L10 X1 -10 A16d X10 A40 -2 A36 -7 X1 E20 Ac F1 G1 X2 F10 Ha -6 A4 J3 P7 Q2 A15 F2",
   "G2 Aa -1 A13 -1 A4 -4 A3 F1 A1 -1 A87 -2 A1 -1 A5e F2 A5e -3 A6 -2 A6 -2 A6 -2 A3 -3 A7 -1",
   "A7 -a D3 C1 A3 Gc -1 G1a -1 G13 -1 G2 -1 Gf -2 Ge -22 G7b -5 G3 -4 G2d -3 G9 H4b P2 R2 -1",
   "Jc W1 -3 P1 -2f J2e -82 J1d -3 J31 -f P1c -4 E1f P1 E4 -9 S3 E1b -5 P2b -5 G1e -1 G1 H24 -4",
   "He -2a E26 G2 E26 G50 -2 Ga -6 R24 -4 R24 -4 P28 -8 P34 -b P1 Xb -1 Xf -1 X7 -1 X2 -1 Xb -1",
   "Xf -1 X7 -1 X2 -3 *34 -c P137 -9 P16 -a P8 -18 X6 -1 X2a -1 X9 -45 G6 -2 G1 -1 G2c -1 G2 -3",
   "G1 -2 G1 K16 -1 K9 P3f -8 P9 -30 Q13 -1 Q2 -5 Q5 I1a K2 -3 I1 J1a -5 J1 -40 M38 -4 Q2 M2",
   "Q10 -2 Q2e H4 -1 H2 -5 H8 -1 H3 -1 H1b T2 -2 H3 -4 H9 T1 -7 H9 -7 K20 P20 -20 P27 -4 Pc -9",
   "K36 -3 K1d -2 K1b -5 K8 P12 -7 P4 -c P7 -50 K49 -37 Q33 -d Q33 -7 Q6 T28 -8 Ta -6 *26 -3",
   "*1d -8 *2 -d0 K1f -1 W2a -1 W3 -2 W2 -10 *3 -37 *1 Y3 T28 -8 T2a -16 X1a -26 W1c -14 U17 -9",
   "L4e -4 L1e X6 -9 P1 K42 X1 -a T1 -2 M19 -7 Ma -6 M35 -1 Me T3 W1 -8 P27 -9 M49 Q4 P1 W2 Ma",
   "P1 Q5 -1 P14 -b P12 -1 P2b R1 Y3 -3e Q7 -1 Q1 -1 Q4 -1 Qf -1 Qb -6 P3b -5 Pa -6 Q1 P3 -1 P8",
   "-2 P2 -2 P16 -1 P7 -1 P2 -1 P5 -1 T1 P9 -2 P2 -2 P3 -2 Q1 -6 P1 -5 P7 -2 P7 -3 P5 -b *a -1",
   "*1 -2 *1 -1 *26 -1 *a -1 *1 -2 *1 -1 *4 -1 *a -1 *2 -8 *2 -1d R5a W1 R1 -1 R1 T1 U1 W2 -1e",
   "P48 -8 Pa -a6 P36 -2 P12 Q14 -22 P45 -b Pa -6 Rd -13 M38 U1 X1 -6 Ma -6 *14 -1c Q1a T1 -2",
   "Qf -4 Q10 X7 -b9 T3c -64 P53 -c P1 W7 -2 W1 -2 W8 -1 W2 -1 W1e -1 W2 -2 Wc -9 Wa -46 U8 -2",
   "U2e -2 Ub -1b S48 -8 S34 U2 S17 T1 S5 -d X10 P39 -7 Ya -b6 *22 -e *a -6 R9 -1 R2d -1 Re -a",
   "R1d -3 R20 -2 R16 -1 Re -49 S7 -1 S2 -1 S2c -3 S1 -1 S2 -1 S9 -8 Sa -6 T6 -1 T2 -1 T25 -1",
   "T2 -1 T6 -7 Ta -136 T19 -7 Y11 -1 Y29 -3 Y1c *1 -55 W1 -f U32 -d U1 I36f P2a Q1 -66 I63 Pc",
   "-1 I4 P1 -b Qc4 -a4c X63 -d K42f Y1 U9 Y1d -a *f9b -5 Q247 -1ab9 *3a -6c6 L239 -7 P1f -1 Pa",
   "-4 P2 X4f -1 Xa -6 P1e -2 P6 -a P46 -a Pa -1 P7 -1 P15 -5 P13 -1b0 *3a -c6 T5b -65 M45 U6",
   "-4 U1 M2f U9 -7 M11 -40 R1 S1 U2 W1 -b W2 -e R17ed T5 U6 -8 R2f3 W1e3 -29 *1 W9 -22e7 X4 -1",
   "X7 -1 X2 -1 L2 S11d X4 -f Y1 -1d U3 -2 Y1 -e U4 -8 S18c -904 P6b -5 Pd -3 P9 -7 Pa -2 P8",
   "-f5c *fa -6 *1b4 -4c X2e -2 X17 -9 X74 -3c Ef6 -a E27 -2 J1 Eb4 Qb X2 -15 H46 -7a Y14 -c",
   "T14 -c G57 -9 I12 T7 -87 E55 -1 E47 -1 E2 -2 E1 -2 E2 -2 E4 -1 Ec -1 E1 -1 E4 G1 E2 -1 E41",
   "-1 E4 -2 E8 -1 E7 -1 E1c -1 E4 -1 E5 -1 E1 -3 E7 -1 E152 H2 -2 E122 I2 -2 E32 Q28c -f Q5 -1",
   "Qf -450 X1f -6 Y6 -d5 R7 -1 R11 -2 R7 -1 R2 -1 R5 -5 Y3e -21 Y1 -70 U2d -3 Ue -2 Ua -4 U2",
   "-140 X1f -11 U3a -5 U1 -1d0 Y2a -d6 *2b -4 *1 -1e0 X7 -1 X4 -1 X2 -1 Xf -1 Pc5 -2 P10 -29",
   "R4b U1 -4 Ra -4 R2 -311 T44 -4c U3d -c2 M4 -1 M1b -1 M2 -1 M1 -2 M1 -1 Ma -1 M4 -1 M1 -1 M1",
   "-6 M1 -4 M1 -1 M1 -1 M1 -1 M3 -1 M2 -1 M1 -2 M1 -1 M1 -1 M1 -1 M1 -1 M1 -1 M2 -1 M1 -2 M4",
   "-1 M7 -1 M4 -1 M4 -1 M1 -1 Ma -1 M11 -5 M3 -1 M5 -1 M11 -34 M2 -10e J2c -4 J64 -c Lf -2 Le",
   "P1 -1 Lf -1 Lf P16 -a Kb P2 W3 K1f T1 L1 K1 Lb K1 L1 K1 L2 K1 L3 K1 L3 K5 L8 K1 L7 K1 La M2",
   "U1 W3 L9 K1 L1 K2 L2 K1 La K4 L2 K1 La R12 W1 -38 L1a K1 L2 -d K22 L9 R1 -4 K9 -7 L2 -e S6",
   "-9a L21 Pc Q3 L6 P1 L46 P1 Q2 L14 Pc L25 P1 L5 P4 Q5 Pc L11 P7 Q8 L3f P1 L1 P1 Lb6 P1 L4 P2",
   "Q1 L3e P2 M4 P7 Q5 L18 P12 R1 P29 R1 P56 L5 M1 L10 M1 L3 M1 L1 M1 L1 M1 L1 M1 L3 M1 L6 M2",
   "L4 M1 L1 M2 L4 M1 Lc P2 Q2 Lb P30 L46 Pa Q1 R2 S2 U1 W2 -4 Y1 X3 Pd -3 P4 R3 S2 T1 U1 W2 -3",
   "L74 Y3 -4 Y5 P55 T4 Y1 -6 Uc -4 X1 -f Pc -4 P38 -8 Pa -6 P28 -8 P1e -2 W2 *a -4 *2 -3e Sc",
   "W1 U3 Q9 R6 S1 R8 S8 R1 S2 Rc U1 Rc S1 T3 Rf Sd T5 U1 W1 T4 W2 X1 T1 U1 T4 Q5 Rd S6 Tb W2",
   "U6 W3 U2 Ta U6 Q1 T2 U8 W1 X1 U3 S17 T19 U54 -c Te -2 U4 W1 Y3 U3 X2 -3 U3 W4 Y2 *1 -5 *1",
   "U6 W13 X4 Y3 W7 X4 Y3 *1 Y1 W3 X3 *1 -7 Y2 W7 X3 Y2 *1 -2 *1 X8 Y1 *1 -6 X7 Y2 -7 W93 -1",
   "W37 *25 Wa -404 B2 Ea6d7 W7 X2 -20 K1035 X4 Y1 -6 Lde -2 Q1682 -e S1d31 -f Z26e -9a2 E21e",
   "-5e0 B2 W134b -5 Y1060 -dc4e B2 -fffe B2 -fffe B2 -fffe B2 -fffe B2 -fffe B2 -fffe B2 -fffe",
   "B2 -fffe B2 -fffe B2 -fffe B2 -1 E1 -1e E60 -80 Gf0 -fe0e B20002"]

end EventFlow.Text.Unicode
