namespace RuleLint.Unicode

/-- Bidirectional classes, filled up to three letters, and lengths of runs. -/
def directionRuns : List String := [
  "BN_9 S__1 B__1 S__1 WS_1 B__1 BN_e B__3 S__1 WS_1 ON_2 ET_3 ON_5 ES_1 CS_1 ES_1 CS_2 EN_a CS_1",
  "ON_6 L__q ON_6 L__q ON_4 BN_6 B__1 BN_q CS_1 ON_1 ET_4 ON_4 L__1 ON_2 BN_1 ON_2 ET_2 EN_2 ON_1",
  "L__1 ON_3 EN_1 L__1 ON_5 L__n ON_1 L__v ON_1 L__ch ON_2 L__7 ON_e L__2 ON_e L__5 ON_9 L__1 ON_h",
  "NSM34 L__4 ON_2 L__8 ON_1 L__5 ON_2 L__1 ON_1 L__32 ON_1 L__3w NSM7 L__74 ON_1 L__2 ON_2 ET_1",
  "R__1 NSM19 R__1 NSM1 R__1 NSM2 R__1 NSM2 R__1 NSM1 R__1k AN_6 ON_2 AL_1 ET_2 AL_1 CS_1 AL_1",
  "ON_2 NSMb AL_1c NSMl AN_a ET_1 AN_2 AL_3 NSM1 AL_2t NSM7 AN_1 ON_1 NSM6 AL_2 NSM2 ON_1 NSM4",
  "AL_2 EN_a AL_n NSM1 AL_u NSMr AL_2j NSMb AL_f R__17 NSM9 R__2 ON_4 R__3 NSM1 R__o NSM4 R__1",
  "NSM9 R__1 NSM3 R__1 NSM5 R__17 NSM3 R__4 AL_1c AN_2 AL_6 NSM8 AL_16 NSMo AN_1 NSMw L__1j NSM1",
  "L__1 NSM1 L__4 NSM8 L__4 NSM1 L__3 NSM7 L__a NSM2 L__t NSM1 L__1m NSM1 L__4 NSM4 L__8 NSM1 L__k",
  "NSM2 L__e ET_2 L__7 ET_1 L__2 NSM1 L__2 NSM2 L__1l NSM1 L__4 NSM2 L__4 NSM2 L__2 NSM3 L__3 NSM1",
  "L__u NSM2 L__3 NSM1 L__b NSM2 L__1l NSM1 L__4 NSM5 L__1 NSM2 L__4 NSM1 L__k NSM2 L__d ET_1 L__8",
  "NSM6 L__1 NSM1 L__1m NSM1 L__2 NSM1 L__1 NSM4 L__8 NSM1 L__7 NSM2 L__b NSM2 L__u NSM1 L__1p",
  "NSM1 L__c NSM1 L__11 ON_6 ET_1 ON_1 L__5 NSM1 L__3 NSM1 L__1j NSM1 L__1 NSM3 L__5 NSM3 L__1",
  "NSM4 L__7 NSM2 L__b NSM2 L__k ON_7 L__2 NSM1 L__1m NSM1 L__f NSM2 L__k NSM2 L__s NSM2 L__1l",
  "NSM2 L__4 NSM4 L__8 NSM1 L__k NSM2 L__t NSM1 L__20 NSM1 L__7 NSM3 L__1 NSM1 L__2i NSM1 L__2",
  "NSM7 L__4 ET_1 L__7 NSM8 L__2q NSM1 L__2 NSM9 L__b NSM7 L__21 NSM2 L__r NSM1 L__1 NSM1 L__1",
  "NSM1 ON_4 L__1f NSMe L__1 NSM5 L__1 NSM2 L__5 NSMb L__1 NSM10 L__9 NSM1 L__2u NSM4 L__1 NSM6",
  "L__1 NSM2 L__2 NSM2 L__p NSM2 L__4 NSM3 L__g NSM4 L__d NSM1 L__2 NSM2 L__6 NSM1 L__f NSM1 L__jj",
  "NSM3 L__1c ON_a L__2u ON_1 L__hr WS_1 L__q ON_2 L__39 NSM3 L__t NSM2 L__u NSM2 L__u NSM2 L__1s",
  "NSM2 L__1 NSM7 L__8 NSM1 L__2 NSMb L__7 ET_1 L__1 NSM1 L__i ON_a L__6 ON_b NSM3 BN_1 NSM1 L__39",
  "NSM2 L__y NSM1 L__3a NSM3 L__4 NSM2 L__9 NSM1 L__6 NSM3 L__4 ON_1 L__3 ON_2 L__48 ON_y L__n",
  "NSM2 L__2 NSM1 L__1m NSM1 L__1 NSM7 L__1 NSM1 L__1 NSM1 L__2 NSM8 L__6 NSMa L__2 NSM1 L__1c",
  "NSMv L__1d NSM4 L__1c NSM1 L__1 NSM5 L__1 NSM1 L__5 NSM1 L__14 NSM9 L__c NSM2 L__w NSM4 L__2",
  "NSM2 L__1 NSM3 L__1k NSM1 L__1 NSM2 L__3 NSM1 L__1 NSM3 L__1m NSM8 L__2 NSM2 L__48 NSM3 L__1",
  "NSMd L__1 NSM7 L__4 NSM1 L__6 NSM1 L__3 NSM2 L__5i NSM1s L__cd ON_1 L__1 ON_3 L__b ON_3 L__d",
  "ON_3 L__d ON_3 L__d ON_2 L__1 WS_b BN_3 L__1 R__1 ON_o WS_1 B__1 LRE1 RLE1 PDF1 LRO1 RLO1 CS_1",
  "ET_5 ON_f CS_1 ON_q WS_1 BN_6 LRI1 RLI1 FSI1 PDI1 BN_6 EN_1 L__3 EN_6 ES_2 ON_3 L__1 EN_a ES_2",
  "ON_3 L__h ET_1c NSMx L__f ON_2 L__1 ON_4 L__1 ON_2 L__a ON_1 L__1 ON_3 L__5 ON_6 L__1 ON_1 L__1",
  "ON_1 L__1 ON_1 L__4 ET_1 L__b ON_2 L__4 ON_5 L__5 ON_4 L__2 ON_g L__15 ON_3 L__4 ON_3m ES_1",
  "ET_1 ON_82 L__1x ON_q L__1 ON_41 L__p ON_b L__l ON_14 EN_k L__26 ON_ci L__1 ON_9f L__74 ON_hg",
  "L__2 ON_w L__1 ON_2x L__6d ON_6 L__4 NSM3 L__7 ON_7 L__3j NSM1 L__2o NSMw ON_2m L__y ON_q L__1",
  "ON_2h L__c ON_5y L__q ON_c L__4 WS_1 ON_4 L__3 ON_p L__9 NSM4 L__2 ON_1 L__5 ON_2 L__5 ON_3",
  "L__2h NSM2 ON_2 L__3 ON_1 L__2i ON_1 L__5g ON_10 L__1l ON_2 L__1d ON_g L__s ON_3 L__1e ON_f",
  "L__c ON_4 L__4n ON_4 L__2r ON_2 L__v ON_1 L__534 ON_1s L__h3k ON_1j L__92 ON_3 L__2n NSM4 ON_1",
  "NSMa ON_2 L__u NSM2 L__28 NSM2 L__e ON_y L__2u ON_1 L__3d NSM1 L__3 NSM1 L__4 NSM1 L__p NSM2",
  "L__1 ON_4 NSM1 L__b ET_2 L__1m ON_4 L__24 NSM2 L__q NSMi L__d NSM1 L__12 NSM8 L__p NSMb L__1a",
  "NSM3 L__1c NSM1 L__2 NSM4 L__2 NSM2 L__13 NSM1 L__1v NSM6 L__2 NSM2 L__2 NSM2 L__c NSM1 L__8",
  "NSM1 L__1b NSM1 L__1f NSM1 L__1 NSM3 L__2 NSM2 L__5 NSM2 L__1 NSM1 L__16 NSM2 L__8 NSM1 L__37",
  "ON_2 L__3d NSM1 L__2 NSM1 L__4 NSM1 L__fn3 R__1 NSM1 R__a ES_1 R__12 AL_dq ON_i AL_3j ON_1 BN_w",
  "AL_d ON_3 NSMg ON_a L__6 NSMg ON_w CS_1 ON_1 CS_1 L__1 ON_1 CS_1 ON_9 ET_1 ON_2 ES_2 ON_3 L__1",
  "ON_1 ET_2 ON_1 L__4 AL_3z BN_1 L__1 ON_2 ET_3 ON_5 ES_1 CS_1 ES_1 CS_2 EN_a CS_1 ON_6 L__q ON_6",
  "L__q ON_b L__3e ET_2 ON_3 ET_2 L__1 ON_7 L__1 BN_9 ON_5 BN_2 L__75 ON_1 L__1q ON_25 L__3 ON_d",
  "L__3 ON_1 L__2k NSM1 L__6a NSM1 EN_r L__3e NSM5 L__w5 R__7z ON_1 R__69 NSM3 R__1 NSM2 R__5 NSM4",
  "R__14 NSM3 R__4 NSM1 R__4l NSM2 R__2a ON_7 R__cg AL_10 NSM4 AL_8 AN_a AL_6 R__80 AN_v R__18",
  "NSM2 R__j AL_1p NSM3 R__1c AL_m NSMb AL_v R__i NSM4 R__3e L__1 NSM1 L__1i NSMf L__b ON_k L__a",
  "NSM1 L__2 NSM2 L__a NSM3 L__1d NSM4 L__2 NSM2 L__7 NSM1 L__1p NSM3 L__10 NSM5 L__1 NSM8 L__1q",
  "NSM1 L__c NSM2 L__1g NSM9 L__a NSM4 L__2 NSM1 L__2n NSM3 L__2 NSM1 L__1 NSM2 L__6 NSM1 L__2",
  "NSM1 L__4d NSM1 L__3 NSM8 L__l NSM2 L__1l NSM2 L__3 NSM1 L__11 NSM7 L__3 NSM5 L__5f NSM8 L__2",
  "NSM3 L__1 NSM1 L__n NSM1 L__2c NSM6 L__1 NSM1 L__4 NSM2 L__1 NSM2 L__6m NSM4 L__6 NSM2 L__1",
  "NSM2 L__r NSM2 L__2d NSM8 L__2 NSM1 L__1 NSM2 L__v ON_d L__1q NSM1 L__1 NSM1 L__2 NSM6 L__1",
  "NSM1 L__2t NSM3 L__2 NSM4 L__1 NSM5 L__77 NSM9 L__1 NSM2 L__74 NSM2 L__1 NSM1 L__4 NSM1 L__40",
  "NSM4 L__2 NSM2 L__4 NSM1 L__w NSM6 L__2 NSM2 L__14 NSM6 L__2 NSM4 L__8 NSM1 L__9 NSM6 L__2 NSM3",
  "L__1a NSMd L__1 NSM2 L__ba NSM7 L__1 NSM6 L__2c NSMm L__2 NSM7 L__1 NSM2 L__1 NSM2 L__3e NSM6",
  "L__3 NSM1 L__1 NSM2 L__1 NSM7 L__1 NSM1 L__20 NSM2 L__3 NSM1 L__1 NSM1 L__9n NSM2 L__b NSM2",
  "L__1g NSM5 L__5 NSM1 L__1 NSM1 L__42 ON_8 ET_4 ON_h L__40e NSM1 L__6 NSMf L__asa NSM5 L__1n",
  "NSM7 L__t4 NSM1 L__1r NSM4 L__27 ON_1 L__1 NSM1 L__f5k NSM2 L__1 BN_4 L__3mk NSM1a L__2 NSMn",
  "L__f4 NSM3 L__9 BN_8 NSM8 L__2 NSM7 L__u NSM4 L__1n ON_2 L__l ON_1u NSM3 ON_1 L__56 ON_2f L__p0",
  "ON_1 L__1l ON_1 L__1l ON_1 L__1l ON_1 L__1l ON_1 L__a EN_1e L__e8 NSM1j L__4 NSM1e L__8 NSM1",
  "L__e NSM1 L__m NSM5 L__1 NSMf L__11s NSM7 L__1 NSMh L__2 NSM7 L__1 NSM2 L__1 NSM5 L__2s NSM1",
  "L__4g NSM7 L__af NSM1 L__1p NSM4 L__f ET_1 L__do NSM4 L__ls R__5s NSM7 R__31 NSM7 R__md AL_28",
  "R__1s AL_28 R__4w AL_6o ON_2 AL_e R__74 ON_18 L__4 ON_2s L__c ON_f L__2 ON_f L__1 ON_f L__1",
  "ON_11 L__a EN_b ON_5 L__v ON_1 L__1m ON_6 L__1p ON_1 L__4y ON_6 L__4a ON_rc L__4 ON_h L__3 ON_d",
  "L__3 ON_3b L__4 ON_2n L__6 ON_c L__4 ON_1 L__f ON_c L__4 ON_1k L__8 ON_a L__6 ON_14 L__8 ON_u",
  "L__2 ON_2 L__26 ON_9g L__c ON_e L__2 ON_d L__3 ON_9 L__7 ON_1a L__1 ON_7 L__8 ON_e L__4 ON_9",
  "L__7 ON_9 L__7 ON_43 L__1 ON_1j L__11 EN_a L__sk BN_2 L__1eke BN_2 L__1eke BN_2 L__1eke BN_2",
  "L__1eke BN_2 L__1eke BN_2 L__1eke BN_2 L__1eke BN_2 L__1eke BN_2 L__1eke BN_2 L__1eke BN_2",
  "L__1eke BN_2 L__1eke BN_76 NSM6o BN_2s0 L__1bem BN_2 L__1eke BN_2 L__1eke BN_2 L__0"]

/-- Joining types by their letter, and lengths of runs. -/
def joiningRuns : List String := [
  "U4t T1 Ugi T34 U7n T7 U7b T19 U1 T1 U1 T2 U1 T2 U1 T1 U20 Tb U1 T1 U3 D1 U1 R4 D1 R1 D1 R1 D5",
  "R4 Dd C1 D7 R1 D2 Tl Ue D2 T1 R3 U1 R3 Dg Ri D12 R1 D2 R9 D1 R1 D1 R1 D2 R2 U1 R1 T7 U2 T6 U2",
  "T2 U1 T4 R2 Ua D3 U2 D1 Uf T1 R1 T1 D3 R5 D4 R1 D9 R1 D1 R1 D1 R1 D2 R1 Tr U2 R1 Db R3 Df R2 D4",
  "R1 D1 R2 D3 R2 D6 U12 Tb Up Dx T9 U6 C1 U2 T1 Uo T4 U1 T9 U1 T3 U1 T5 Ui R1 D5 R2 D1 R1 Da R1",
  "D1 R3 T3 U4 D1 U1 D4 U1 R1 D1 R2 U5 Rj C3 D1 U2 D5 R1 U9 T8 Da R3 U1 R1 D2 R2 D6 R1 Df U1 To U1",
  "Tw U1j T1 U1 T1 U4 T8 U4 T1 U3 T7 Ua T2 Ut T1 U1m T1 U4 T4 U8 T1 Uk T2 Uq T1 U2 T2 U1l T1 U4 T2",
  "U4 T2 U2 T3 U3 T1 Uu T2 U3 T1 Ub T2 U1l T1 U4 T5 U1 T2 U4 T1 Uk T2 Um T6 U1 T1 U1m T1 U2 T1 U1",
  "T4 U8 T1 U7 T2 Ub T2 Uu T1 U1p T1 Uc T1 U1e T1 U3 T1 U1j T1 U1 T3 U5 T3 U1 T4 U7 T2 Ub T2 Ut T1",
  "U1m T1 U2 T1 U6 T1 U5 T2 Uk T2 Us T2 U1l T2 U4 T4 U8 T1 Uk T2 Ut T1 U20 T1 U7 T3 U1 T1 U2i T1",
  "U2 T7 Uc T8 U2q T1 U2 T9 Ub T7 U21 T2 Ur T1 U1 T1 U1 T1 U1j Te U1 T5 U1 T2 U5 Tb U1 T10 U9 T1",
  "U2u T4 U1 T6 U1 T2 U2 T2 Up T2 U4 T3 Ug T4 Ud T1 U2 T2 U6 T1 Uf T1 Ujj T3 Uqa T3 Ut T2 Uu T2 Uu",
  "T2 U1s T2 U1 T7 U8 T1 U2 Tb U9 T1 U15 D1 U2 C1 T3 U1 T1 Ug D2h Uc T2 Dy T1 D1 U39 T3 U4 T2 U9",
  "T1 U6 T3 U63 T2 U2 T1 U1m T1 U1 T7 U1 T1 U1 T1 U2 T8 U6 Ta U2 T1 U1c Tv U1d T4 U1c T1 U1 T5 U1",
  "T1 U5 T1 U14 T9 Uc T2 Uw T4 U2 T2 U1 T3 U1k T1 U1 T2 U3 T1 U1 T3 U1m T8 U2 T2 U48 T3 U1 Td U1",
  "T7 U4 T1 U6 T1 U3 T2 U5i T1s Uej T1 U1 C1 T2 Uq T5 U1d T5 U5 T6 U2o Tx U2da T3 U3x T1 U2o Tw",
  "Ufe T4 U2z T2 Un9w T4 U1 Ta Uw T2 U28 T2 U7k T1 U3 T1 U4 T1 Up T2 U5 T1 Uj D1e L1 U29 T2 Uq Ti",
  "Ud T1 U12 T8 Up Tb U1a T3 U1c T1 U2 T4 U2 T2 U13 T1 U1v T6 U2 T2 U2 T2 Uc T1 U8 T1 U1b T1 U1f",
  "T1 U1 T3 U2 T2 U5 T2 U1 T1 U16 T2 U8 T1 U6m T1 U2 T1 U4 T1 Ufn4 T1 Ukh Tg Ug Tg U5r T1 U6x T3",
  "Ue9 T1 U6a T1 U45 T5 U1ae T3 U1 T2 U5 T4 U14 T3 U4 T1 U3k D5 R1 U1 R1 U1 R2 U2 L1 R5 D4 L1 D5",
  "R1 D3 R1 U2 R1 T2 U4 D4 R1 U40 D1 R1 D1 R3 D3 R1 D2 R1 D1 R2 D1 R1 Un R4 D2 U9d L1 Dx R1 D1 T4",
  "Uar T2 U28 T3 U1c D3 R1 Dh U1 Tb D3 R1 Ur D4 R2 Dc T4 U16 D1 U1 D2 R3 U1 D1 R2 D2 R1 D2 U1 D1",
  "R2 D1 U4 R1 D1 L1 U1h T1 U1i Tf U15 T1 U2 T2 Ua T3 U1d T4 U2 T2 U7 T1 U1p T3 U10 T5 U1 T8 U1q",
  "T1 Uc T2 U1g T9 Ua T4 U2 T1 U2n T3 U2 T1 U1 T2 U6 T1 U2 T1 U4d T1 U3 T8 Ul T2 U1l T2 U3 T1 U11",
  "T7 U3 T5 U5f T8 U2 T3 U1 T1 Un T1 U2c T6 U1 T1 U4 T2 U1 T2 U6m T4 U6 T2 U1 T2 Ur T2 U2d T8 U2",
  "T1 U1 T2 U2y T1 U1 T1 U2 T6 U1 T1 U2t T3 U2 T4 U1 T5 U77 T9 U1 T2 U74 T2 U1 T1 U4 T1 U40 T4 U2",
  "T2 U4 T1 Uw Ta U14 T6 U2 T4 U8 T1 U9 T6 U2 T3 U1a Td U1 T2 Uba T7 U1 T6 U1 T1 U2a Tm U2 T7 U1",
  "T2 U1 T2 U3e T6 U3 T1 U1 T2 U1 T7 U1 T1 U20 T2 U3 T1 U1 T1 U9n T2 Ub T2 U1g T5 U5 T1 U1 T1 U44t",
  "Th U6 Tf Uasa T5 U1n T7 Ut4 T1 U1r T4 U29 T1 Uf5k T2 U1 T4 U3mk T1a U2 Tn Uf4 T3 U9 Tg U2 T7 Uu",
  "T4 U44 T3 U1iz T1j U4 T1e U8 T1 Ue T1 Um T5 U1 Tf U11s T7 U1 Th U2 T7 U1 T2 U1 T5 U2s T1 U4g T7",
  "Uaf T1 U1p T4 Ue4 T4 Urk T7 U15 D1w T8 Ugzat T1 Uu T2o U3k T6o U47bk U0"]

end RuleLint.Unicode
